import DocQuery.Session.Workspace

/-!
# What becomes of a session

Carrying out a plan has one of two outcomes for its session: the session stays as it is, because
nothing was sent or the executor has failed, or it remembers the statement that was executed. In
both the collection stays the same, the operation leaves no options behind, and no identifiers are
drawn beyond those of the plan.
-/

namespace DocQuery

variable {σ τ : Type}

/-- The session after a statement has been executed, with the identifiers that were handed out. -/
def Session.remember (session : Session) (statement : Statement) (ids : Option InsertedIds) :
    Session :=
  { session with
    tracer := session.tracer.record session.target statement
    lastInsert := ids <|> session.lastInsert }

@[simp] theorem Session.target_remember (session : Session) (statement : Statement)
    (ids : Option InsertedIds) : (session.remember statement ids).target = session.target := rfl

@[simp] theorem Session.options_remember (session : Session) (statement : Statement)
    (ids : Option InsertedIds) : (session.remember statement ids).options = session.options := rfl

namespace Connection

variable (connection : Connection σ τ) {α : Type} (session : Session)

theorem carryOut_done (answer : Except Fault α) (shared : Shared σ τ) :
    connection.carryOut session (.done answer) shared = ((answer, session), shared) := rfl

theorem carryOut_write (write : Write) (ids : Option InsertedIds) (answer : WriteResult → α)
    (shared : Shared σ τ) :
    connection.carryOut session (.write write ids answer) shared =
      match connection.send
        (.bulkWrite (write.bulk session.target connection.config.writeConcern)) shared with
      | (.error fault, after) => ((.error fault, session), after)
      | (.ok result, after) =>
        ((.ok (answer result), session.remember write.statement ids), after) := by
  simp only [carryOut, bind, StateT.bind]
  generalize connection.send _ shared = reply
  obtain ⟨result, after⟩ := reply
  cases result <;> rfl

theorem carryOut_read (options : Options) (answer : List Document → α) (shared : Shared σ τ) :
    connection.carryOut session (.read options answer) shared =
      match connection.readCommand session.target options shared with
      | (.error fault, after) => ((.error fault, session), after)
      | (.ok command, between) =>
        match connection.send (.command session.target.database command) between with
        | (.error fault, after) => ((.error fault, session), after)
        | (.ok rows, after) =>
          ((.ok (answer rows), session.remember (.command command) none), after) := by
  simp only [carryOut, bind, StateT.bind]
  generalize connection.readCommand session.target options shared = compiled
  obtain ⟨command, between⟩ := compiled
  cases command with
  | error fault => rfl
  | ok command =>
      simp only [bind, StateT.bind]
      generalize connection.send _ between = reply
      obtain ⟨rows, after⟩ := reply
      cases rows <;> rfl

/-- How a plan comes to its end: nothing is to be sent, a request is not answered, or the session
remembers the statement that is. A read may have no command yet when it fails. -/
inductive Ends (shared : Shared σ τ) : Plan α → (Except Fault α × Session) × Shared σ τ → Prop where
  | done (answer : Except Fault α) : Ends shared (.done answer) ((answer, session), shared)
  | unwritten {write : Write} {ids : Option InsertedIds} {answer : WriteResult → α}
      {fault : Fault} {after : Shared σ τ}
      (failed : connection.send
        (.bulkWrite (write.bulk session.target connection.config.writeConcern)) shared =
          (.error fault, after)) :
      Ends shared (.write write ids answer) ((.error fault, session), after)
  | written {write : Write} {ids : Option InsertedIds} {answer : WriteResult → α}
      {result : WriteResult} {after : Shared σ τ}
      (replied : connection.send
        (.bulkWrite (write.bulk session.target connection.config.writeConcern)) shared =
          (.ok result, after)) :
      Ends shared (.write write ids answer)
        ((.ok (answer result), session.remember write.statement ids), after)
  | uncompiled {options : Options} {answer : List Document → α} {fault : Fault}
      {after : Shared σ τ}
      (unknown : connection.readCommand session.target options shared = (.error fault, after)) :
      Ends shared (.read options answer) ((.error fault, session), after)
  | unread {options : Options} {answer : List Document → α} {command : Document}
      {between : Shared σ τ} {fault : Fault} {after : Shared σ τ}
      (compiled : connection.readCommand session.target options shared = (.ok command, between))
      (failed : connection.send (.command session.target.database command) between =
        (.error fault, after)) :
      Ends shared (.read options answer) ((.error fault, session), after)
  | read {options : Options} {answer : List Document → α} {command : Document}
      {between : Shared σ τ} {rows : List Document} {after : Shared σ τ}
      (compiled : connection.readCommand session.target options shared = (.ok command, between))
      (replied : connection.send (.command session.target.database command) between =
        (.ok rows, after)) :
      Ends shared (.read options answer)
        ((.ok (answer rows), session.remember (.command command) none), after)

theorem ends_carryOut (plan : Plan α) (shared : Shared σ τ) :
    connection.Ends session shared plan (connection.carryOut session plan shared) := by
  cases plan with
  | done answer => exact .done answer
  | write write ids answer =>
      rw [carryOut_write]
      generalize sent : connection.send _ shared = replied
      obtain ⟨reply, after⟩ := replied
      cases reply with
      | error fault => exact .unwritten sent
      | ok result => exact .written sent
  | read options answer =>
      rw [carryOut_read]
      generalize asked : connection.readCommand session.target options shared = compiled
      obtain ⟨command, between⟩ := compiled
      cases command with
      | error fault => exact .uncompiled asked
      | ok command =>
          simp only
          generalize sent : connection.send _ between = replied
          obtain ⟨reply, after⟩ := replied
          cases reply with
          | error fault => exact .unread asked sent
          | ok rows => exact .read asked sent

/-- A plan is made, it is carried out, and the options are dropped. -/
theorem perform_eq (operation : Operation) (shared : Shared σ τ) :
    connection.perform session operation shared =
      let planned := onSource (session.plan connection.config connection.primaryKey operation)
        shared
      let carried := connection.carryOut session planned.1 planned.2
      ((carried.1.1, carried.1.2.edit .reset), carried.2) := rfl

theorem target_carryOut (plan : Plan α) (shared : Shared σ τ) :
    (connection.carryOut session plan shared).1.2.target = session.target := by
  have ends := connection.ends_carryOut session plan shared
  generalize connection.carryOut session plan shared = carried at ends ⊢
  cases ends <;> rfl

@[simp] theorem target_set (setting : Setting) (shared : Shared σ τ) :
    (connection.set session setting shared).1.target = session.target := rfl

@[simp] theorem options_set_reset (shared : Shared σ τ) :
    (connection.set session .reset shared).1.options = default := rfl

@[simp] theorem target_perform (operation : Operation) (shared : Shared σ τ) :
    (connection.perform session operation shared).1.2.target = session.target :=
  connection.target_carryOut session _ _

/-- A session goes on without options, whatever has become of its statement. -/
@[simp] theorem options_perform (operation : Operation) (shared : Shared σ τ) :
    (connection.perform session operation shared).1.2.options = default := rfl

/-! ## The source of identifiers -/

theorem source_of_send {request : Request} {reply : Except Fault request.Reply}
    {shared after : Shared σ τ} (sent : connection.send request shared = (reply, after)) :
    after.source = shared.source :=
  congrArg (·.2.source) sent.symm

theorem source_serverVersion (shared : Shared σ τ) :
    (connection.serverVersion shared).2.source = shared.source := by
  rw [serverVersion]
  cases connection.config.serverVersion <|> shared.version with
  | some version => rfl
  | none =>
      simp only
      generalize sent : connection.send .version shared = replied
      obtain ⟨reply, after⟩ := replied
      have kept := connection.source_of_send sent
      cases reply <;> exact kept

theorem source_of_readCommand {target : Namespace} {options : Options}
    {command : Except Fault Document} {shared after : Shared σ τ}
    (asked : connection.readCommand target options shared = (command, after)) :
    after.source = shared.source := by
  have same : after = (connection.readCommand target options shared).2 :=
    congrArg Prod.snd asked.symm
  rw [same, readCommand]
  by_cases counts : options.countLabel.isSome
  · rw [if_pos counts]
    exact connection.source_serverVersion shared
  · rw [if_neg counts]
    rfl

/-- Identifiers are drawn in planning only. -/
theorem source_carryOut (plan : Plan α) (shared : Shared σ τ) :
    (connection.carryOut session plan shared).2.source = shared.source := by
  have ends := connection.ends_carryOut session plan shared
  generalize connection.carryOut session plan shared = carried at ends ⊢
  cases ends with
  | done answer => rfl
  | unwritten failed => exact connection.source_of_send failed
  | written replied => exact connection.source_of_send replied
  | uncompiled unknown => exact connection.source_of_readCommand unknown
  | unread compiled failed =>
      exact (connection.source_of_send failed).trans (connection.source_of_readCommand compiled)
  | read compiled replied =>
      exact (connection.source_of_send replied).trans (connection.source_of_readCommand compiled)

theorem source_perform (operation : Operation) (shared : Shared σ τ) :
    (connection.perform session operation shared).2.source =
      (session.plan connection.config connection.primaryKey operation shared.source).2 :=
  connection.source_carryOut session _ _

/-! ## Reads -/

/-- The plan of a read on a known collection needs nothing from the source of identifiers. -/
theorem onSource_plan {operation : Operation} {edits : List Options.Edit}
    {answer : List Document → operation.Answer}
    (planned : session.plan connection.config connection.primaryKey operation =
      session.planRead edits answer)
    (resolved : session.target.fault? = none) (shared : Shared σ τ) :
    onSource (session.plan connection.config connection.primaryKey operation) shared =
      (.read (session.options.editAll edits) answer, shared) := by
  rw [planned, Session.planRead, Session.onTarget, resolved]
  rfl

/-- A read on a known collection gives what its answer makes of the reply to its command. -/
theorem answer_perform_read {operation : Operation} {edits : List Options.Edit}
    {answer : List Document → operation.Answer}
    (planned : session.plan connection.config connection.primaryKey operation =
      session.planRead edits answer)
    (resolved : session.target.fault? = none) {shared between : Shared σ τ} {command : Document}
    (compiled : connection.readCommand session.target (session.options.editAll edits) shared =
      (.ok command, between)) :
    (connection.perform session operation shared).1.1 =
      (connection.executor.answer (.command session.target.database command)
        between.executor).1.map answer := by
  have plan := connection.onSource_plan session planned resolved shared
  simp only [perform, bind, StateT.bind, plan, carryOut_read, compiled]
  simp only [send]
  generalize connection.executor.answer _ between.executor = reply
  obtain ⟨rows, after⟩ := reply
  cases rows <;> rfl

theorem readCommand_of_uncounted (target : Namespace) {options : Options}
    (uncounted : options.countLabel = none) (shared : Shared σ τ) :
    connection.readCommand target options shared =
      (.ok (aggregateCommand target (options.pipeline default)), shared) := by
  rw [readCommand, uncounted]
  rfl

theorem readCommand_of_counted (target : Namespace) {options : Options}
    (counted : options.countLabel.isSome = true) {shared after : Shared σ τ}
    {version : ServerVersion} (known : connection.serverVersion shared = (.ok version, after)) :
    connection.readCommand target options shared =
      (.ok (aggregateCommand target (options.pipeline version)), after) := by
  simp only [readCommand, counted, if_true, bind, StateT.bind, known]
  rfl

/-! ## Sessions that there are -/

/-- The sessions that a connection brings about: they are opened, their options are changed, and
operations are run on them. What else has happened to the shared state in between is left open. -/
inductive Reaches : Session → Prop where
  | collection (name : String) : Reaches (connection.collection name)
  | set {session : Session} (reached : Reaches session) (setting : Setting)
      (shared : Shared σ τ) : Reaches (connection.set session setting shared).1
  | perform {session : Session} (reached : Reaches session) (operation : Operation)
      (shared : Shared σ τ) : Reaches (connection.perform session operation shared).1.2

theorem Reaches.foldl_set {connection : Connection σ τ} {session : Session}
    (reached : connection.Reaches session) (settings : List Setting) (shared : Shared σ τ) :
    connection.Reaches
      (settings.foldl (fun session setting => (connection.set session setting shared).1)
        session) := by
  induction settings generalizing session with
  | nil => exact reached
  | cons setting settings ih => exact ih (reached.set setting shared)

/-- What holds where no option is set, and is kept by each setting, holds of the options of all
sessions: an operation leaves none behind. -/
theorem Reaches.options_induction {connection : Connection σ τ} {session : Session}
    (reached : connection.Reaches session) (P : Options → Prop) (unset : P default)
    (kept : ∀ (session : Session) (setting : Setting) (shared : Shared σ τ),
      P session.options → P (connection.set session setting shared).1.options) :
    P session.options := by
  induction reached with
  | collection name => exact unset
  | set reached setting shared ih => exact kept _ setting shared ih
  | perform reached operation shared ih => exact unset

/-- Settings have no say in counting. -/
theorem countLabel_set (setting : Setting) (shared : Shared σ τ)
    (uncounted : session.options.countLabel = none) :
    (connection.set session setting shared).1.options.countLabel = none := by
  cases setting with
  | remove key => cases key <;> first | exact uncounted | rfl
  | reset => rfl
  | filter raw => exact uncounted
  | field selection => exact uncounted
  | sort document => exact uncounted
  | group document => exact uncounted
  | limit n => exact uncounted
  | skip n => exact uncounted
  | upsert b => exact uncounted
  | idsAsText b => exact uncounted

/-- Counting is asked for within an operation only, so no session is ever found waiting to count. -/
theorem Reaches.countLabel_eq_none {connection : Connection σ τ} {session : Session}
    (reached : connection.Reaches session) : session.options.countLabel = none :=
  reached.options_induction (·.countLabel = none) rfl fun _ => connection.countLabel_set _

end Connection

namespace Workspace

variable {connection : Connection σ τ} {workspace : Workspace σ τ}

/-- All sessions of the workspace are sessions of the connection. -/
def Reached (connection : Connection σ τ) (workspace : Workspace σ τ) : Prop :=
  ∀ name session, workspace.session? name = some session → connection.Reaches session

theorem reached_empty (shared : Shared σ τ) : Reached connection ⟨shared, ∅⟩ := by
  intro name session found
  exact absurd found (by simp [session?])

theorem Reached.insert (reached : workspace.Reached connection) {session : Session}
    (new : connection.Reaches session) (shared : Shared σ τ) (name : String) :
    Reached connection ⟨shared, workspace.sessions.insert name session⟩ := by
  intro other session' found
  by_cases same : other = name
  · subst same
    rw [session?, Fields.get?_insert_self] at found
    exact Option.some.inj found ▸ new
  · rw [session?, Fields.get?_insert_of_ne _ _ same] at found
    exact reached other session' found

theorem Reached.step (reached : workspace.Reached connection) (step : Step) :
    (workspace.step connection step).Reached connection := by
  cases step with
  | openSession name collection => exact reached.insert (.collection collection) _ name
  | set name setting =>
      cases found : workspace.session? name with
      | none =>
          rw [step_set_of_none connection setting found]
          exact reached
      | some session =>
          rw [step_set_of_some connection setting found]
          exact reached.insert ((reached name session found).set setting _) _ name
  | perform name operation =>
      cases found : workspace.session? name with
      | none =>
          rw [step_perform_of_none connection operation found]
          exact reached
      | some session =>
          rw [step_perform_of_some connection operation found]
          exact reached.insert ((reached name session found).perform operation _) _ name

/-- Whatever is done with a workspace, its sessions are sessions of the connection. -/
theorem Reached.run (reached : workspace.Reached connection) (steps : List Step) :
    (workspace.run connection steps).Reached connection := by
  induction steps generalizing workspace with
  | nil => exact reached
  | cons next steps ih => exact ih (reached.step next)

end Workspace

end DocQuery
