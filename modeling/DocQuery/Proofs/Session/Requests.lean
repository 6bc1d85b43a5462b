import DocQuery.Executor.Recorder
import DocQuery.Session.Workspace

/-!
# The requests of a run

What a session does to the outside are the requests that its executor receives. They are seen by
running the same action over a logged executor, which writes each request down and then lets the
executor answer it. Writing down changes nothing: the run over the logged executor has the answers,
the sessions and the states of the plain run, and its log grows by requests that do not depend on
what the log holds already.

For every action the requests are given in closed form. What carrying out a plan sends can be read
off the plan, so a property of all plans is a property of all requests of all runs.

None of this depends on which requests are written down. An executor may note down a part of them,
depending on the state in which they are sent; the logged executor is the one that omits none.
-/

namespace DocQuery

variable {σ τ : Type}

/-- The same connection over an executor whose requests are written down. -/
def Connection.logged (connection : Connection σ τ) : Connection (List Request × σ) τ where
  executor := connection.executor.logged
  codec := connection.codec
  config := connection.config
  flawless := connection.flawless

namespace Connection

@[simp] theorem config_logged (connection : Connection σ τ) :
    connection.logged.config = connection.config := rfl

@[simp] theorem primaryKey_logged (connection : Connection σ τ) :
    connection.logged.primaryKey = connection.primaryKey := rfl

@[simp] theorem collection_logged (connection : Connection σ τ) (name : String) :
    connection.logged.collection name = connection.collection name := rfl

end Connection

def Shared.withLog (log : List Request) (shared : Shared σ τ) : Shared (List Request × σ) τ where
  executor := (log, shared.executor)
  source := shared.source
  version := shared.version

/-- The requests that an action of a connection sends. -/
def Connection.requests {α : Type} (connection : Connection σ τ)
    (action : Connection (List Request × σ) τ → StateM (Shared (List Request × σ) τ) α)
    (shared : Shared σ τ) : List Request :=
  (action connection.logged (shared.withLog [])).2.executor.1

/-- An action over a logged executor follows one over the plain executor: it has the same result,
and adds the given requests to whatever the log holds. -/
def Follows {α : Type} (plain : StateM (Shared σ τ) α)
    (logged : StateM (Shared (List Request × σ) τ) α) (sent : Shared σ τ → List Request) : Prop :=
  ∀ log shared, logged (shared.withLog log) =
    ((plain shared).1, (plain shared).2.withLog (log ++ sent shared))

namespace Follows

variable {α β : Type} {plain : StateM (Shared σ τ) α}
variable {logged : StateM (Shared (List Request × σ) τ) α} {sent : Shared σ τ → List Request}

theorem pure (a : α) :
    Follows (Pure.pure a : StateM (Shared σ τ) α) (Pure.pure a) fun _ => [] := by
  intro log shared
  rw [List.append_nil]
  rfl

/-- What is sent first stands first, and what is sent next starts from the state in between. -/
theorem bind {next : α → StateM (Shared σ τ) β}
    {nextLogged : α → StateM (Shared (List Request × σ) τ) β}
    (nextSent : α → Shared σ τ → List Request) (first : Follows plain logged sent)
    (rest : ∀ a, Follows (next a) (nextLogged a) (nextSent a)) :
    Follows (plain >>= next) (logged >>= nextLogged) fun shared =>
      sent shared ++ nextSent (plain shared).1 (plain shared).2 := by
  intro log shared
  show nextLogged (logged (shared.withLog log)).1 (logged (shared.withLog log)).2 = _
  rw [first log shared, rest, List.append_assoc]
  rfl

theorem congr {sent' : Shared σ τ → List Request} (follows : Follows plain logged sent)
    (same : ∀ shared, sent shared = sent' shared) : Follows plain logged sent' := by
  intro log shared
  rw [follows log shared, same shared]

/-- Nothing is sent for what is made of a result. -/
theorem map (first : Follows plain logged sent) (f : α → β) :
    Follows (plain >>= fun a => Pure.pure (f a)) (logged >>= fun a => Pure.pure (f a)) sent := by
  intro log shared
  show (f (logged (shared.withLog log)).1, (logged (shared.withLog log)).2) = _
  rw [first log shared]
  rfl

theorem onSource (step : StateM τ α) :
    Follows (Connection.onSource step : StateM (Shared σ τ) α) (Connection.onSource step)
      fun _ => [] := by
  intro log shared
  rw [List.append_nil]
  rfl

theorem send (connection : Connection σ τ) (request : Request) :
    Follows (connection.send request) (connection.logged.send request) fun _ => [request] := by
  intro log shared
  rfl

end Follows

namespace Connection

/-- What is noted down of the question for the version, which is asked only as long as neither the
configuration nor the executor has given one. -/
def versionNoted (connection : Connection σ τ) (note : Request → Shared σ τ → List Request)
    (shared : Shared σ τ) : List Request :=
  if (connection.config.serverVersion <|> shared.version).isSome then [] else note .version shared

/-- What is noted down of asking for the command of a read. -/
def readCommandNoted (connection : Connection σ τ) (note : Request → Shared σ τ → List Request)
    (options : Options) (shared : Shared σ τ) : List Request :=
  if options.countLabel.isSome then connection.versionNoted note shared else []

def planNoted {α : Type} (connection : Connection σ τ)
    (note : Request → Shared σ τ → List Request) (target : Namespace) :
    Plan α → Shared σ τ → List Request
  | .done _, _ => []
  | .write write _ _, shared =>
    note (.bulkWrite (write.bulk target connection.config.writeConcern)) shared
  | .read options _, shared =>
    connection.readCommandNoted note options shared ++
      match (connection.readCommand target options shared).1 with
      | .error _ => []
      | .ok command =>
        note (.command target.database command) (connection.readCommand target options shared).2

def operationNoted (connection : Connection σ τ) (note : Request → Shared σ τ → List Request)
    (session : Session) (operation : Operation) (shared : Shared σ τ) : List Request :=
  let planned := onSource (session.plan connection.config connection.primaryKey operation) shared
  connection.planNoted note session.target planned.1 planned.2

/-- Another connection does what a connection does, and notes down its requests. -/
structure NotedBy (connection : Connection σ τ) (note : Request → Shared σ τ → List Request)
    (noting : Connection (List Request × σ) τ) : Prop where
  codec : noting.codec = connection.codec
  config : noting.config = connection.config
  send : ∀ request, Follows (connection.send request) (noting.send request) (note request)

/-- The version is asked for only as long as neither the configuration nor the executor has given
one. -/
def versionRequests (connection : Connection σ τ) (shared : Shared σ τ) : List Request :=
  if (connection.config.serverVersion <|> shared.version).isSome then [] else [.version]

/-- What asking for the command of a read sends: the question for the version, for counts only. -/
def readCommandRequests (connection : Connection σ τ) (options : Options) (shared : Shared σ τ) :
    List Request :=
  if options.countLabel.isSome then connection.versionRequests shared else []

theorem eq_version_of_mem_versionRequests {connection : Connection σ τ} {shared : Shared σ τ}
    {request : Request} (sent : request ∈ connection.versionRequests shared) :
    request = .version := by
  rw [versionRequests] at sent
  split at sent
  · exact absurd sent List.not_mem_nil
  · exact List.mem_singleton.mp sent

theorem eq_version_of_mem_readCommandRequests {connection : Connection σ τ} {options : Options}
    {shared : Shared σ τ} {request : Request}
    (sent : request ∈ connection.readCommandRequests options shared) : request = .version := by
  rw [readCommandRequests] at sent
  split at sent
  · exact eq_version_of_mem_versionRequests sent
  · exact absurd sent List.not_mem_nil

/-- What a plan sends: at most one write, or at most one command, and the command only if there is
one. -/
def planRequests {α : Type} (connection : Connection σ τ) (target : Namespace) :
    Plan α → Shared σ τ → List Request
  | .done _, _ => []
  | .write write _ _, _ => [.bulkWrite (write.bulk target connection.config.writeConcern)]
  | .read options _, shared =>
    connection.readCommandRequests options shared ++
      match (connection.readCommand target options shared).1 with
      | .error _ => []
      | .ok command => [.command target.database command]

/-- What an operation sends, for the plan that is made of it. -/
def operationRequests (connection : Connection σ τ) (session : Session) (operation : Operation)
    (shared : Shared σ τ) : List Request :=
  let planned := onSource (session.plan connection.config connection.primaryKey operation) shared
  connection.planRequests session.target planned.1 planned.2

end Connection

namespace Connection.NotedBy

variable {connection : Connection σ τ} {note : Request → Shared σ τ → List Request}
variable {noting : Connection (List Request × σ) τ}

theorem serverVersion (noted : connection.NotedBy note noting) :
    Follows connection.serverVersion noting.serverVersion (connection.versionNoted note) := by
  intro log shared
  have asked := noted.send .version log shared
  cases known : connection.config.serverVersion <|> shared.version with
  | some version =>
      have same : (noting.config.serverVersion <|> (shared.withLog log).version) = some version :=
        noted.config ▸ known
      simp only [Connection.serverVersion, versionNoted, known, same, Option.isSome_some, if_true,
        List.append_nil]
  | none =>
      have same : (noting.config.serverVersion <|> (shared.withLog log).version) = none :=
        noted.config ▸ known
      simp only [Connection.serverVersion, versionNoted, known, same, asked]
      obtain ⟨answer, after⟩ := connection.send .version shared
      cases answer with
      | error fault => rfl
      | ok version => rfl

theorem readCommand (noted : connection.NotedBy note noting) (target : Namespace)
    (options : Options) :
    Follows (connection.readCommand target options) (noting.readCommand target options)
      (connection.readCommandNoted note options) := by
  unfold Connection.readCommand readCommandNoted
  by_cases counts : options.countLabel.isSome
  · simp only [counts, if_true]
    exact noted.serverVersion.map _
  · simp only [counts, Bool.false_eq_true, if_false]
    exact (Follows.pure _).map _

theorem carryOut {α : Type} (noted : connection.NotedBy note noting) (session : Session)
    (plan : Plan α) :
    Follows (connection.carryOut session plan) (noting.carryOut session plan)
      (connection.planNoted note session.target plan) := by
  cases plan with
  | done answer => exact .pure _
  | write write ids answer =>
      obtain ⟨executor, codec, config, flawless⟩ := noting
      obtain rfl : config = connection.config := noted.config
      refine (Follows.bind (fun _ _ => []) (noted.send _) ?_).congr fun shared => ?_
      · intro reply
        cases reply <;> exact .pure _
      · exact List.append_nil _
  | read options answer =>
      refine (Follows.bind
        (fun command between => match command with
          | .error _ => []
          | .ok command => note (.command session.target.database command) between)
        (noted.readCommand _ _) ?_).congr fun shared => rfl
      intro command
      cases command with
      | error fault => exact .pure _
      | ok command =>
          refine (Follows.bind (fun _ _ => []) (noted.send _) ?_).congr fun shared => ?_
          · intro rows
            cases rows <;> exact .pure _
          · exact List.append_nil _

theorem perform (noted : connection.NotedBy note noting) (session : Session)
    (operation : Operation) :
    Follows (connection.perform session operation) (noting.perform session operation)
      (connection.operationNoted note session operation) := by
  have key : noting.primaryKey = connection.primaryKey := by
    rw [Connection.primaryKey, Connection.primaryKey, noted.config, noted.codec]
  simp only [Connection.perform, noted.config, key]
  exact (Follows.bind (connection.planNoted note session.target) (.onSource _)
    fun plan => (noted.carryOut session plan).map _).congr fun _ => List.nil_append _

end Connection.NotedBy

namespace Connection

/-- A logged executor notes down each request. -/
theorem notedBy_logged (connection : Connection σ τ) :
    connection.NotedBy (fun request _ => [request]) connection.logged where
  codec := rfl
  config := rfl
  send := Follows.send connection

theorem planNoted_singleton {α : Type} (connection : Connection σ τ) (target : Namespace)
    (plan : Plan α) (shared : Shared σ τ) :
    connection.planNoted (fun request _ => [request]) target plan shared =
      connection.planRequests target plan shared := by
  cases plan <;> rfl

end Connection

namespace Follows

theorem perform (connection : Connection σ τ) (session : Session) (operation : Operation) :
    Follows (connection.perform session operation) (connection.logged.perform session operation)
      (connection.operationRequests session operation) :=
  (connection.notedBy_logged.perform session operation).congr fun _ =>
    connection.planNoted_singleton session.target _ _

theorem set (connection : Connection σ τ) (session : Session) (setting : Setting) :
    Follows (connection.set session setting) (connection.logged.set session setting)
      fun _ => [] :=
  onSource _

/-- What an action over a plain executor is known to send are its requests. -/
theorem requests_eq {connection : Connection σ τ} {α : Type} {plain : StateM (Shared σ τ) α}
    {action : Connection (List Request × σ) τ → StateM (Shared (List Request × σ) τ) α}
    {sent : Shared σ τ → List Request} (follows : Follows plain (action connection.logged) sent)
    (shared : Shared σ τ) : connection.requests action shared = sent shared := by
  rw [Connection.requests, follows [] shared]
  rfl

end Follows

theorem Connection.requests_perform (connection : Connection σ τ) (session : Session)
    (operation : Operation) (shared : Shared σ τ) :
    connection.requests (·.perform session operation) shared =
      connection.operationRequests session operation shared :=
  (Follows.perform connection session operation).requests_eq shared

namespace Workspace

def withLog (log : List Request) (workspace : Workspace σ τ) : Workspace (List Request × σ) τ where
  shared := workspace.shared.withLog log
  sessions := workspace.sessions

def requests (connection : Connection σ τ) (workspace : Workspace σ τ) (steps : List Step) :
    List Request :=
  ((workspace.withLog []).run connection.logged steps).shared.executor.1

/-- What a step sends. Only operations send anything, and only on sessions that are there. -/
def stepRequests (connection : Connection σ τ) (workspace : Workspace σ τ) : Step → List Request
  | .openSession _ _ => []
  | .set _ _ => []
  | .perform name operation =>
    match workspace.session? name with
    | none => []
    | some session => connection.operationRequests session operation workspace.shared

theorem step_withLog (connection : Connection σ τ) (workspace : Workspace σ τ)
    (log : List Request) (step : Step) :
    (workspace.withLog log).step connection.logged step =
      (workspace.step connection step).withLog (log ++ workspace.stepRequests connection step) := by
  cases step with
  | openSession name collection =>
      simp only [stepRequests, List.append_nil]
      rfl
  | set name setting =>
      rw [stepRequests, List.append_nil]
      cases found : workspace.session? name with
      | none =>
          have logged : (workspace.withLog log).session? name = none := found
          rw [step_set_of_none _ setting found, step_set_of_none _ setting logged]
      | some session =>
          have logged : (workspace.withLog log).session? name = some session := found
          have follows := Follows.set connection session setting log workspace.shared
          rw [List.append_nil] at follows
          rw [step_set_of_some _ setting found, step_set_of_some _ setting logged]
          simp only [withLog, follows]
  | perform name operation =>
      cases found : workspace.session? name with
      | none =>
          have logged : (workspace.withLog log).session? name = none := found
          rw [step_perform_of_none _ operation found, step_perform_of_none _ operation logged,
            stepRequests, found, List.append_nil]
      | some session =>
          have logged : (workspace.withLog log).session? name = some session := found
          have follows := Follows.perform connection session operation log workspace.shared
          rw [step_perform_of_some _ operation found, step_perform_of_some _ operation logged]
          simp only [withLog, follows, stepRequests, found]

/-- A run over a logged executor is the plain run, and adds the requests of the run to its log. -/
theorem run_withLog (connection : Connection σ τ) (workspace : Workspace σ τ) (log : List Request)
    (steps : List Step) :
    (workspace.withLog log).run connection.logged steps =
      (workspace.run connection steps).withLog (log ++ workspace.requests connection steps) := by
  induction steps generalizing workspace log with
  | nil =>
      rw [requests, run_nil, run_nil, run_nil]
      exact congrArg (workspace.withLog ·) (List.append_nil log).symm
  | cons next steps ih =>
      have sent : workspace.requests connection (next :: steps) =
          workspace.stepRequests connection next ++
            (workspace.step connection next).requests connection steps := by
        rw [requests, run_cons, step_withLog, ih]
        rfl
      rw [run_cons, step_withLog, ih, sent, run_cons, List.append_assoc]

@[simp] theorem requests_nil (connection : Connection σ τ) (workspace : Workspace σ τ) :
    workspace.requests connection [] = [] := rfl

@[simp] theorem requests_cons (connection : Connection σ τ) (workspace : Workspace σ τ)
    (next : Step) (steps : List Step) :
    workspace.requests connection (next :: steps) =
      workspace.stepRequests connection next ++
        (workspace.step connection next).requests connection steps := by
  rw [requests, run_cons, step_withLog, run_withLog]
  rfl

theorem run_append (connection : Connection σ τ) (workspace : Workspace σ τ) (xs ys : List Step) :
    workspace.run connection (xs ++ ys) = (workspace.run connection xs).run connection ys :=
  List.foldl_append

end Workspace

/-- A connection over a recorder, for examples of runs. -/
def recordedConnection : Connection Recorder Nat where
  executor := Recorder.executor
  codec := .counting
  config :=
    { database := "app"
      debug := true
      writeConcern := some { acknowledgment := .majority } }
  flawless := by decide

end DocQuery
