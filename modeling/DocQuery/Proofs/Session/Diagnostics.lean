import DocQuery.Proofs.Session.Answers
import DocQuery.Proofs.Session.Intents
import DocQuery.Proofs.Session.Isolation

/-!
# What a session says of its past

A session remembers two things for its caller: the text of the last statement, and the identifiers
of the last insert. Both can be told from outside. The text is that of the last statement among the
requests of the session that the executor has answered, and the identifiers are the last ones that
the session has handed out. So statements that were refused or have failed are not remembered, and
an operation that hands out nothing leaves the identifiers as they are.

An insert of one document is answered with a count, or with the identifier; what is remembered of
it is the identifier in the form in which the second answer gives it.
-/

namespace DocQuery

variable {σ τ : Type}

/-! ## Identifiers that are handed out -/

namespace Operation

/-- The same operation, but one that tells its identifiers. -/
def naming : Operation → Operation
  | insert raw => insertGetId raw
  | operation => operation

/-- Only an insert that is answered with a count does not tell its identifier. -/
theorem naming_eq_self_or (operation : Operation) :
    operation.naming = operation ∨ ∃ raw, operation = insert raw := by
  cases operation with
  | insert raw => exact .inr ⟨raw, rfl⟩
  | _ => exact .inl rfl

def handedOut : (operation : Operation) → operation.Answer → Option InsertedIds
  | insertGetId _, (id : Value) => some (.one id)
  | insertAll _, (many : InsertedMany) => some (.many many.ids)
  | _, _ => none

end Operation

/-- The identifiers that an operation hands out: those of its answer, or of the answer that it would
have been given if it had asked for them. -/
def Connection.handedOut (connection : Connection σ τ) (session : Session) (operation : Operation)
    (shared : Shared σ τ) : Option InsertedIds :=
  (connection.perform session operation.naming shared).1.1.toOption.bind operation.naming.handedOut

/-- The identifiers that a plan keeps are those that are found in its answer. -/
inductive Plan.Names {α : Type} (named : α → Option InsertedIds) : Plan α → Prop where
  | done {answer : Except Fault α} (nothing : ∀ a, answer = .ok a → named a = none) :
      Names named (.done answer)
  | write {write : Write} {ids : Option InsertedIds} {answer : WriteResult → α}
      (same : ∀ result, named (answer result) = ids) : Names named (.write write ids answer)
  | read {options : Options} {answer : List Document → α}
      (nothing : ∀ rows, named (answer rows) = none) : Names named (.read options answer)

theorem Plan.Names.unless {α : Type} {named : α → Option InsertedIds} {plan : Plan α}
    (names : plan.Names named) (fault? : Option Fault) :
    (Plan.unless fault? plan).Names named := by
  cases fault? with
  | none => exact names
  | some fault =>
      apply Plan.Names.done
      intro a answered
      contradiction

namespace Session

variable (session : Session) (config : Config) (key : PrimaryKey τ) (source : τ)
variable {α : Type} {named : α → Option InsertedIds}

/-- An insert keeps the identifier that it is answered with. -/
theorem names_planInsert (raw : Document) {answer : WriteResult → Value → α}
    (same : ∀ result id, named (answer result id) = some (.one id)) :
    (session.planInsert key raw answer source).1.Names named := by
  rw [planInsert_eq]
  refine Plan.Names.unless (Plan.Names.write ?_) _
  intro result
  exact same result _

theorem names_planUpdate (raw : Document) {named : UInt64 → Option InsertedIds}
    (nothing : ∀ matched, named matched = none) :
    (session.planUpdate key raw source).1.Names named := by
  rw [planUpdate_eq]
  refine Plan.Names.unless (Plan.Names.write ?_) _
  intro result
  exact nothing result.matched

theorem names_planRead (edits : List Options.Edit) {answer : List Document → α}
    (nothing : ∀ rows, named (answer rows) = none) :
    ((session.planRead edits answer : StateM τ (Plan α)) source).1.Names named := by
  rw [planRead_eq]
  exact .unless (.read nothing) _

/-- The plan of an operation that tells its identifiers keeps what it tells. -/
theorem names_plan (operation : Operation) :
    (session.plan config key operation.naming source).1.Names operation.naming.handedOut := by
  cases operation with
  | insert raw => exact session.names_planInsert key source raw fun _ _ => rfl
  | insertGetId raw => exact session.names_planInsert key source raw fun _ _ => rfl
  | insertAll raws =>
      show (session.planInsertAll key raws source).1.Names _
      rw [planInsertAll_eq]
      refine Plan.Names.unless (Plan.Names.write ?_) _
      intro result
      rfl
  | update raw => exact session.names_planUpdate key source raw fun _ => rfl
  | setField field content => exact session.names_planUpdate key source _ fun _ => rfl
  | increment field step => exact session.names_planUpdate key source _ fun _ => rfl
  | decrement field step =>
      show (session.plan config key (.decrement field step) source).1.Names _
      rw [plan]
      split
      · apply Plan.Names.done
        intro answer answered
        contradiction
      · exact session.names_planUpdate key source _ fun _ => rfl
  | delete =>
      show (session.planDelete source).1.Names _
      rw [planDelete_eq]
      refine Plan.Names.unless (Plan.Names.write ?_) _
      intro result
      rfl
  | value field =>
      show (session.plan config key (.value field) source).1.Names _
      rw [plan]
      split
      · exact .done fun _ _ => rfl
      · exact session.names_planRead source _ fun _ => rfl
  | select => exact session.names_planRead source [] fun _ => rfl
  | find => exact session.names_planRead source _ fun _ => rfl
  | column fields => exact session.names_planRead source _ fun _ => rfl
  | count => exact session.names_planRead source _ fun _ => rfl
  | page number => exact session.names_planRead source _ fun _ => rfl

end Session

namespace Connection

variable (connection : Connection σ τ) (session : Session)

/-- A session keeps the identifiers that it has answered with. -/
theorem lastInsert_carryOut {α : Type} {named : α → Option InsertedIds} {plan : Plan α}
    (names : plan.Names named) (shared : Shared σ τ) :
    (connection.carryOut session plan shared).1.2.lastInsert =
      ((connection.carryOut session plan shared).1.1.toOption.bind named).or
        session.lastInsert := by
  have ends := connection.ends_carryOut session plan shared
  generalize connection.carryOut session plan shared = carried at ends ⊢
  cases ends with
  | done answer =>
      cases names with
      | done nothing =>
          cases answer with
          | error fault => rfl
          | ok a =>
              show session.lastInsert = (named a).or session.lastInsert
              rw [nothing a rfl]
              rfl
  | unwritten failed => rfl
  | @written write ids answer result after replied =>
      cases names with
      | write same =>
          show (ids <|> session.lastInsert) = (named (answer result)).or session.lastInsert
          rw [same result]
          cases ids <;> rfl
  | uncompiled unknown => rfl
  | unread compiled failed => rfl
  | @read options answer command between rows after compiled replied =>
      cases names with
      | read nothing =>
          show session.lastInsert = (named (answer rows)).or session.lastInsert
          rw [nothing rows]
          rfl

/-- What becomes of a session does not depend on what is made of the counters of a write. -/
theorem session_carryOut_write {α β : Type} (write : Write) (ids : Option InsertedIds)
    (first : WriteResult → α) (second : WriteResult → β) {a b : Shared σ τ}
    (same : a.executor = b.executor) :
    (connection.carryOut session (.write write ids first) a).1.2 =
      (connection.carryOut session (.write write ids second) b).1.2 := by
  simp only [carryOut_write, send, same]
  generalize connection.executor.answer _ b.executor = replied
  obtain ⟨reply, after⟩ := replied
  cases reply <;> rfl

/-- What becomes of a session does not depend on whether it is asked for identifiers. -/
theorem session_perform_naming (operation : Operation) (shared : Shared σ τ) :
    (connection.perform session operation.naming shared).1.2 =
      (connection.perform session operation shared).1.2 := by
  obtain same | ⟨raw, rfl⟩ := operation.naming_eq_self_or
  · rw [same]
  · have named := session.planInsert_eq connection.primaryKey shared.source raw fun _ id => id
    have counted := session.planInsert_eq connection.primaryKey shared.source raw
      fun result _ => result.inserted
    have asked : (onSource (session.plan connection.config connection.primaryKey
      (.insertGetId raw)) shared).1 = _ := named
    have plain : (onSource (session.plan connection.config connection.primaryKey
      (.insert raw)) shared).1 = _ := counted
    show (connection.perform session (.insertGetId raw) shared).1.2 = _
    simp only [perform_eq, asked, plain]
    cases session.fault? (.insert [raw]) with
    | some fault => rfl
    | none =>
        exact congrArg (Session.edit · .reset)
          (connection.session_carryOut_write session _ _ _ _ rfl)

theorem lastInsert_perform (operation : Operation) (shared : Shared σ τ) :
    (connection.perform session operation shared).1.2.lastInsert =
      (connection.handedOut session operation shared).or session.lastInsert := by
  rw [← session_perform_naming]
  exact connection.lastInsert_carryOut session
    (session.names_plan connection.config connection.primaryKey shared.source operation) _

end Connection

/-! ## Runs -/

/-- One session becomes another while requests are answered and identifiers are handed out: it
works on the same collection, has kept the statements that are among the requests, and remembers the
last identifiers. -/
structure Session.Reports (before after : Session) (answered : List Request)
    (ids : List InsertedIds) : Prop where
  target : after.target = before.target
  tracer : after.tracer =
    (answered.filterMap Request.statement?).foldl (·.record before.target ·) before.tracer
  lastInsert : after.lastInsert = ids.getLast?.or before.lastInsert
  shown : ∀ request ∈ answered, request = .version ∨ request.statement?.isSome = true

namespace Session.Reports

variable {a b c : Session} {answered later : List Request} {ids next : List InsertedIds}

theorem refl (a : Session) : a.Reports a [] [] where
  target := rfl
  tracer := rfl
  lastInsert := rfl
  shown _ member := absurd member List.not_mem_nil

theorem trans (first : a.Reports b answered ids) (second : b.Reports c later next) :
    a.Reports c (answered ++ later) (ids ++ next) where
  target := second.target.trans first.target
  tracer := by
    rw [second.tracer, first.tracer, first.target, List.filterMap_append, List.foldl_append]
  lastInsert := by
    rw [second.lastInsert, first.lastInsert, List.getLast?_append, Option.or_assoc]
  shown request member :=
    (List.mem_append.mp member).elim (first.shown request) (second.shown request)

end Session.Reports

theorem Connection.reports_set (connection : Connection σ τ) (session : Session)
    (setting : Setting) (shared : Shared σ τ) :
    session.Reports (connection.set session setting shared).1 [] [] where
  target := rfl
  tracer := rfl
  lastInsert := rfl
  shown _ member := absurd member List.not_mem_nil

theorem Connection.reports_perform (connection : Connection σ τ) (session : Session)
    (operation : Operation) (shared : Shared σ τ) :
    session.Reports (connection.perform session operation shared).1.2
      (connection.answered (·.perform session operation) shared)
      (connection.handedOut session operation shared).toList where
  target := connection.target_perform session operation shared
  tracer := connection.tracer_perform session operation shared
  lastInsert := by
    rw [connection.lastInsert_perform]
    cases connection.handedOut session operation shared <;> rfl
  shown _ member := connection.statement?_of_mem_answered session member

namespace Workspace

/-- What is told of the steps of one session in a run, one after another. -/
def tellings {α : Type} (connection : Connection σ τ) (name : String)
    (tell : Workspace σ τ → Step → List α) (workspace : Workspace σ τ) : List Step → List α
  | [] => []
  | step :: steps =>
    (if step.name = name then tell workspace step else []) ++
      (workspace.step connection step).tellings connection name tell steps

def stepAnswered (connection : Connection σ τ) (workspace : Workspace σ τ) (step : Step) :
    List Request :=
  ((workspace.withLog []).step connection.confirmed step).shared.executor.1

def stepHandedOut (connection : Connection σ τ) (workspace : Workspace σ τ) :
    Step → List InsertedIds
  | .openSession _ _ => []
  | .set _ _ => []
  | .perform name operation =>
    match workspace.session? name with
    | none => []
    | some session => (connection.handedOut session operation workspace.shared).toList

def answered (connection : Connection σ τ) (name : String) (workspace : Workspace σ τ)
    (steps : List Step) : List Request :=
  workspace.tellings connection name (stepAnswered connection) steps

def handedOut (connection : Connection σ τ) (name : String) (workspace : Workspace σ τ)
    (steps : List Step) : List InsertedIds :=
  workspace.tellings connection name (stepHandedOut connection) steps

variable (connection : Connection σ τ) {workspace : Workspace σ τ} {name : String}
variable {session : Session}

theorem reports_step {step : Step} (same : step.name = name) (kept : ¬ step.Opens)
    (found : workspace.session? name = some session) :
    ∃ after, (workspace.step connection step).session? name = some after ∧
      session.Reports after (workspace.stepAnswered connection step)
        (workspace.stepHandedOut connection step) := by
  cases step with
  | openSession opened collection => exact absurd trivial kept
  | set edited setting =>
      obtain rfl : edited = name := same
      have logged : (workspace.withLog []).session? edited = some session := found
      refine ⟨(connection.set session setting workspace.shared).1, ?_, ?_⟩
      · rw [step_set_of_some connection setting found]
        exact Fields.get?_insert_self _ _ _
      · rw [stepAnswered, step_set_of_some connection.confirmed setting logged]
        exact connection.reports_set session setting workspace.shared
  | perform used operation =>
      obtain rfl : used = name := same
      have logged : (workspace.withLog []).session? used = some session := found
      refine ⟨(connection.perform session operation workspace.shared).1.2, ?_, ?_⟩
      · rw [step_perform_of_some connection operation found]
        exact Fields.get?_insert_self _ _ _
      · rw [stepAnswered, step_perform_of_some connection.confirmed operation logged]
        simp only [stepHandedOut, found]
        exact connection.reports_perform session operation workspace.shared

/-- Steps of other sessions neither answer nor hand out anything to a session, nor do they change
what it remembers. -/
theorem reports_run {steps : List Step} (kept : ∀ step ∈ steps, step.name = name → ¬ step.Opens)
    (found : workspace.session? name = some session) :
    ∃ after, (workspace.run connection steps).session? name = some after ∧
      session.Reports after (workspace.answered connection name steps)
        (workspace.handedOut connection name steps) := by
  induction steps generalizing workspace session with
  | nil => exact ⟨session, found, .refl session⟩
  | cons step steps ih =>
      have rest := fun next member => kept next (List.mem_cons_of_mem step member)
      rw [run_cons, answered, handedOut, tellings, tellings]
      by_cases own : step.name = name
      · obtain ⟨between, there, first⟩ :=
          reports_step connection own (kept step List.mem_cons_self own) found
        obtain ⟨after, reached, second⟩ := ih rest there
        rw [if_pos own, if_pos own]
        exact ⟨after, reached, first.trans second⟩
      · obtain ⟨after, reached, second⟩ :=
          ih rest ((session?_step_of_ne connection own).trans found)
        rw [if_neg own, if_neg own]
        exact ⟨after, reached, second⟩

/-- Whatever is done on the sessions of a connection, and wherever the executor fails: if statements
are kept, a session shows the last statement among its answered requests, and none as long as there
is none; if they are not kept it shows nothing. It remembers the identifiers that it has handed out
last. Each answered request is a statement, unless it is the question for the version. -/
theorem diagnoses_run (workspace : Workspace σ τ) (collection : String) {steps : List Step}
    (kept : ∀ step ∈ steps, step.name = name → ¬ step.Opens) :
    let opened := workspace.step connection (.openSession name collection)
    let target := (connection.collection collection).target
    let answered := opened.answered connection name steps
    let statements := answered.filterMap Request.statement?
    ∃ session, (opened.run connection steps).session? name = some session ∧
      session.lastStatement =
        (if connection.config.debug then statements.getLast?.map (·.text target) else none) ∧
      (∀ request ∈ answered, request = .version ∨ request.statement?.isSome = true) ∧
      session.lastInsert = (opened.handedOut connection name steps).getLast? := by
  intro opened target answered statements
  have found : opened.session? name = some (connection.collection collection) :=
    Fields.get?_insert_self _ _ _
  obtain ⟨session, reached, reports⟩ := reports_run connection kept found
  refine ⟨session, reached, ?_, reports.shown, ?_⟩
  · rw [Session.lastStatement, reports.tracer, Tracer.foldl_record]
    show (if connection.config.debug then _ else _ : Tracer).last = _
    split
    · exact Option.or_none
    · rfl
  · rw [reports.lastInsert]
    exact Option.or_none

/-- A connection whose executor answers every other request, for examples. -/
def faltering : Connection Bool Nat where
  executor :=
    { answer := fun request up =>
        let reply : request.Reply :=
          match request with
          | .version => (default : ServerVersion)
          | .bulkWrite _ => (default : WriteResult)
          | .command _ _ => ([] : List Document)
        (if up then .ok reply else .error (.executor "out of reach"), !up) }
  codec := .counting
  config := { database := "app", debug := true }
  flawless := by decide

/-- A select that fails and a removal that is refused, with an insert of another session in between,
leave the insert of a session as the last statement, and its identifier as the last one. -/
theorem diagnoses_run_behind_failed_select :
    let workspace : Workspace Bool Nat := ⟨⟨true, 0, none⟩, ∅⟩
    let ann : Document := .singleton "name" (.string "Ann")
    let id : Value := .objectId (.ofNat 1)
    let steps : List Step :=
      [.openSession "p" "orders", .perform "q" (.insert ann), .perform "q" .select,
        .perform "p" (.insert ann), .perform "q" .delete]
    (∀ step ∈ steps, step.name = "q" → ¬ step.Opens) ∧
    ∃ session, ((workspace.step faltering (.openSession "q" "users")).run faltering
        steps).session? "q" = some session ∧
      session.lastStatement =
        some ((Statement.insert [⟨[("_id", id), ("name", .string "Ann")]⟩]).text
          ⟨"app", "users"⟩) ∧
      session.lastInsert = some (.one id) := by
  intro workspace ann id steps
  have kept : ∀ step ∈ steps, step.name = "q" → ¬ step.Opens := by
    simp [steps, Step.name, Step.Opens]
  obtain ⟨session, found, shown, -, handed⟩ := diagnoses_run faltering workspace "users" kept
  exact ⟨kept, session, found, shown.trans rfl, handed.trans rfl⟩

end Workspace

end DocQuery
