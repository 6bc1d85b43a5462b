import DocQuery.Proofs.Session.Outcome
import DocQuery.Proofs.Session.Requests

/-!
# Isolation of statements

Nothing of one statement reaches the next. What a session remembers of its past, the text of its
last statement and the identifiers of its last insert, is never read by planning or by carrying out
a plan, and its options are the default ones whenever a statement has ended. From there on it sends
the requests and gives the answers of a session that has just been opened.

The two halves are an invariant of runs, kept by every step of every session, and a relation between
two sessions that goes on as long as both do the same.
-/

namespace DocQuery

variable {σ τ : Type}

namespace Session

/-- Two sessions work on one collection with the same options. What they remember may differ. -/
structure Alike (a b : Session) : Prop where
  target : a.target = b.target
  options : a.options = b.options

variable {a b : Session}

theorem Alike.edit (alike : a.Alike b) (edit : Options.Edit) :
    (a.edit edit).Alike (b.edit edit) where
  target := alike.target
  options := congrArg (·.edit edit) alike.options

theorem Alike.remember (alike : a.Alike b) (statement : Statement) (ids : Option InsertedIds) :
    (a.remember statement ids).Alike (b.remember statement ids) where
  target := alike.target
  options := alike.options

/-- What a session remembers is not read by planning. -/
theorem Alike.plan_eq (alike : a.Alike b) (config : Config) (key : PrimaryKey τ)
    (operation : Operation) : a.plan config key operation = b.plan config key operation := by
  obtain ⟨target, options, tracer, lastInsert⟩ := a
  obtain ⟨target', options', tracer', lastInsert'⟩ := b
  obtain ⟨rfl, rfl⟩ := alike
  cases operation <;> rfl

end Session

/-- Two ends of an action on sessions that nobody can tell apart, but by what the sessions
remember. -/
structure Agree {α : Type} (first second : (α × Session) × Shared σ τ) : Prop where
  answer : first.1.1 = second.1.1
  session : first.1.2.Alike second.1.2
  shared : first.2 = second.2

namespace Connection

/-- Options are set one after another, and then an operation is run. -/
def chain (connection : Connection σ τ) (session : Session) (settings : List Setting)
    (operation : Operation) : StateM (Shared σ τ) (Except Fault operation.Answer × Session) := do
  let session ← settings.foldlM connection.set session
  connection.perform session operation

variable (connection : Connection σ τ) {a b : Session}

theorem agree_carryOut {α : Type} (alike : a.Alike b) (plan : Plan α) (shared : Shared σ τ) :
    Agree (connection.carryOut a plan shared) (connection.carryOut b plan shared) := by
  cases plan with
  | done answer => exact ⟨rfl, alike, rfl⟩
  | write write ids answer =>
      rw [carryOut_write, carryOut_write, alike.target]
      split
      · exact ⟨rfl, alike, rfl⟩
      · exact ⟨rfl, alike.remember _ _, rfl⟩
  | read options answer =>
      rw [carryOut_read, carryOut_read, alike.target]
      split
      · exact ⟨rfl, alike, rfl⟩
      · split
        · exact ⟨rfl, alike, rfl⟩
        · exact ⟨rfl, alike.remember _ _, rfl⟩

theorem agree_perform (alike : a.Alike b) (operation : Operation) (shared : Shared σ τ) :
    Agree (connection.perform a operation shared) (connection.perform b operation shared) := by
  have planned := alike.plan_eq connection.config connection.primaryKey operation
  simp only [perform, bind, StateT.bind, planned]
  generalize onSource _ shared = plan
  have carried := connection.agree_carryOut alike plan.1 plan.2
  exact ⟨carried.answer, carried.session.edit .reset, carried.shared⟩

/-- Alike sessions answer every chain alike. Each setting keeps them alike. -/
theorem agree_chain (alike : a.Alike b) (settings : List Setting) (operation : Operation)
    (shared : Shared σ τ) :
    Agree (connection.chain a settings operation shared)
      (connection.chain b settings operation shared) := by
  induction settings generalizing a b shared with
  | nil => exact connection.agree_perform alike operation shared
  | cons setting settings ih => exact ih (alike.edit _) _

end Connection

/-! ## Histories -/

namespace Workspace

def Step.name : Step → String
  | .openSession name _ => name
  | .set name _ => name
  | .perform name _ => name

def Step.Opens : Step → Prop
  | .openSession _ _ => True
  | .set _ _ => False
  | .perform _ _ => False

/-- Whether a step ends a statement: by an operation, or by dropping all options. -/
def Step.Ends : Step → Prop
  | .openSession _ _ => False
  | .set _ setting => setting = .reset
  | .perform _ _ => True

variable (connection : Connection σ τ) {workspace : Workspace σ τ} {name : String}

/-- Steps of other sessions leave a session alone. -/
theorem session?_step_of_ne {step : Step} (elsewhere : step.name ≠ name) :
    (workspace.step connection step).session? name = workspace.session? name := by
  have other : name ≠ step.name := fun same => elsewhere same.symm
  cases step with
  | openSession opened collection => exact Fields.get?_insert_of_ne _ _ other
  | set edited setting =>
      cases found : workspace.session? edited with
      | none => rw [step_set_of_none connection setting found]
      | some session =>
          rw [step_set_of_some connection setting found]
          exact Fields.get?_insert_of_ne _ _ other
  | perform used operation =>
      cases found : workspace.session? used with
      | none => rw [step_perform_of_none connection operation found]
      | some session =>
          rw [step_perform_of_some connection operation found]
          exact Fields.get?_insert_of_ne _ _ other

theorem session?_run_of_ne {steps : List Step} (elsewhere : ∀ step ∈ steps, step.name ≠ name) :
    (workspace.run connection steps).session? name = workspace.session? name := by
  induction steps generalizing workspace with
  | nil => rfl
  | cons next steps ih =>
      rw [run_cons, ih fun step member => elsewhere step (List.mem_cons_of_mem next member)]
      exact session?_step_of_ne connection (elsewhere next List.mem_cons_self)

/-- There is a session under the name, and it works on the collection. -/
def WorksOn (workspace : Workspace σ τ) (name : String) (target : Namespace) : Prop :=
  ∃ session, workspace.session? name = some session ∧ session.target = target

/-- The session after a step of its own that does not open it anew. -/
theorem session?_step_of_eq {step : Step} {session : Session} (same : step.name = name)
    (kept : ¬ step.Opens) (found : workspace.session? name = some session) :
    ∃ after, (workspace.step connection step).session? name = some after ∧
      after.target = session.target ∧ (step.Ends → after.options = default) := by
  cases step with
  | openSession opened collection => exact absurd trivial kept
  | set edited setting =>
      obtain rfl : edited = name := same
      refine ⟨(connection.set session setting workspace.shared).1, ?_, rfl, ?_⟩
      · rw [step_set_of_some connection setting found]
        exact Fields.get?_insert_self _ _ _
      · rintro rfl
        rfl
  | perform used operation =>
      obtain rfl : used = name := same
      refine ⟨(connection.perform session operation workspace.shared).1.2, ?_,
        connection.target_perform session operation _, fun _ => rfl⟩
      rw [step_perform_of_some connection operation found]
      exact Fields.get?_insert_self _ _ _

theorem WorksOn.step {target : Namespace} (works : workspace.WorksOn name target) {step : Step}
    (kept : step.name = name → ¬ step.Opens) :
    (workspace.step connection step).WorksOn name target := by
  obtain ⟨session, found, same⟩ := works
  by_cases own : step.name = name
  · obtain ⟨after, there, stays, -⟩ := session?_step_of_eq connection own (kept own) found
    exact ⟨after, there, stays.trans same⟩
  · exact ⟨session, (session?_step_of_ne connection own).trans found, same⟩

theorem WorksOn.run {target : Namespace} (works : workspace.WorksOn name target)
    {steps : List Step} (kept : ∀ step ∈ steps, step.name = name → ¬ step.Opens) :
    (workspace.run connection steps).WorksOn name target := by
  induction steps generalizing workspace with
  | nil => exact works
  | cons next steps ih =>
      rw [run_cons]
      exact ih (works.step connection (kept next List.mem_cons_self))
        fun step member => kept step (List.mem_cons_of_mem next member)

/-- A session whose statement has ended cannot be told from one that is opened at that moment: its
options are the default ones, and every chain that follows sends the same requests, gives the same
answer and leaves the same state behind. Its history may be any, in between steps of any other
sessions, and the executor may have failed anywhere in it. -/
theorem fresh_of_ended (workspace : Workspace σ τ) (collection : String)
    {before after : List Step} {last : Step}
    (kept : ∀ step ∈ before ++ [last], step.name = name → ¬ step.Opens)
    (own : last.name = name) (ended : last.Ends) (elsewhere : ∀ step ∈ after, step.name ≠ name) :
    let reached := workspace.run connection
      (.openSession name collection :: before ++ last :: after)
    let fresh := connection.collection collection
    ∃ session, reached.session? name = some session ∧ session.options = default ∧
      ∀ settings operation,
        connection.requests (·.chain session settings operation) reached.shared =
            connection.requests (·.chain fresh settings operation) reached.shared ∧
          (connection.chain session settings operation reached.shared).1.1 =
            (connection.chain fresh settings operation reached.shared).1.1 ∧
          (connection.chain session settings operation reached.shared).2 =
            (connection.chain fresh settings operation reached.shared).2 := by
  intro reached fresh
  let opened := workspace.step connection (.openSession name collection)
  have works : opened.WorksOn name fresh.target := ⟨fresh, Fields.get?_insert_self _ _ _, rfl⟩
  obtain ⟨session, found, same⟩ := works.run connection
    fun step member => kept step (List.mem_append_left _ member)
  obtain ⟨ending, there, stays, settled⟩ := session?_step_of_eq connection own
    (kept last (List.mem_append_right _ List.mem_cons_self) own) found
  have final : reached.session? name = some ending := by
    have parts : reached =
        (((opened.run connection before).step connection last).run connection after) :=
      run_append connection workspace (.openSession name collection :: before) (last :: after)
    rw [parts, session?_run_of_ne connection elsewhere, there]
  have alike : ending.Alike fresh := ⟨stays.trans same, settled ended⟩
  refine ⟨ending, final, settled ended, fun settings operation => ?_⟩
  have agree := connection.agree_chain alike settings operation reached.shared
  have logged := connection.logged.agree_chain alike settings operation (reached.shared.withLog [])
  exact ⟨congrArg (·.executor.1) logged.shared, agree.answer, agree.shared⟩

/-- A page that the executor has failed to answer leaves neither its filter nor the limit and the
skip that it has set by itself. -/
theorem fresh_after_failed_page :
    let workspace : Workspace Recorder Nat := ⟨⟨{ failure := some "out of reach" }, 0, none⟩, ∅⟩
    let before : List Step :=
      [.set "q" (.filter (.singleton "name" (.string "Ann"))), .openSession "p" "orders"]
    let last : Step := .perform "q" (.page 3)
    let after : List Step := [.perform "p" (.insert (.singleton "age" (.int32 3)))]
    let reached := workspace.run recordedConnection
      (.openSession "q" "users" :: before ++ last :: after)
    ((∀ step ∈ before ++ [last], step.name = "q" → ¬ step.Opens) ∧ last.name = "q" ∧ last.Ends ∧
      ∀ step ∈ after, step.name ≠ "q") ∧
    ∃ session, reached.session? "q" = some session ∧ session.options = default ∧
      recordedConnection.requests (·.chain session [.limit 2] .select) reached.shared =
        [.command "app" (aggregateCommand ⟨"app", "users"⟩ [.limit 2])] := by
  intro workspace before last after reached
  have kept : ∀ step ∈ before ++ [last], step.name = "q" → ¬ step.Opens := by
    simp [before, last, Step.name, Step.Opens]
  have elsewhere : ∀ step ∈ after, step.name ≠ "q" := by
    simp [after, Step.name]
  obtain ⟨session, found, settled, same⟩ :=
    fresh_of_ended recordedConnection workspace "users" kept rfl trivial elsewhere
  exact ⟨⟨kept, rfl, trivial, elsewhere⟩, session, found, settled,
    (same [.limit 2] .select).1.trans rfl⟩

end Workspace

end DocQuery
