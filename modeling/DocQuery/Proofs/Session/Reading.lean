import DocQuery.Proofs.Server.Basic
import DocQuery.Proofs.Session.Outcome
import DocQuery.Proofs.Session.Requests

/-!
# Reads

A read sends the command that carries its pipeline and, if it counts, asks for the version before.
Where a server stands behind the executor, the read is answered with what its plan makes of the rows
that the pipeline selects: the command is the only thing that a server sees of a session.
-/

namespace DocQuery

variable {σ τ : Type}

namespace Session

variable (session : Session) (config : Config) (key : PrimaryKey τ)

theorem plan_select : session.plan config key .select = session.planRead [] id := rfl

theorem plan_count :
    session.plan config key .count = session.planRead [.count countLabel] countOfRows := rfl

/-- The options that a page adds to those of the session. -/
def pageEdits (number : Int64) : List Options.Edit :=
  [.limit (session.pageLimit config), .skip (pageSkip number (session.pageLimit config))]

/-- The rows in front of a page, as far as a word can count them. -/
theorem pageSkip_eq_ofNat (number : Int64) (limit : UInt64) :
    pageSkip number limit =
      .ofNat (min ((max number.toInt 1 - 1).toNat * limit.toNat) (UInt64.size - 1)) := by
  rw [pageSkip, UInt64.ofNatClamp]
  split
  · rename_i fits
    rw [UInt64.ofNatLT_eq_ofNat, Nat.min_eq_left (Nat.le_sub_one_of_lt fits)]
  · rename_i large
    rw [UInt64.ofNatLT_eq_ofNat, Nat.min_eq_right (by omega)]

theorem plan_page (number : Int64) :
    session.plan config key (.page number) =
      session.planRead (session.pageEdits config number) id := rfl

end Session

/-- What a read sends. -/
theorem Connection.operationRequests_read {connection : Connection σ τ} {session : Session}
    {operation : Operation} {edits : List Options.Edit}
    {answer : List Document → operation.Answer}
    (planned : session.plan connection.config connection.primaryKey operation =
      session.planRead edits answer)
    (resolved : session.target.fault? = none) {shared between : Shared σ τ} {command : Document}
    (compiled : connection.readCommand session.target (session.options.editAll edits) shared =
      (.ok command, between)) :
    connection.operationRequests session operation shared =
      connection.readCommandRequests (session.options.editAll edits) shared ++
        [.command session.target.database command] := by
  simp only [operationRequests, connection.onSource_plan session planned resolved shared,
    planRequests, compiled]

/-- A read whose command carries a pipeline gives what its plan makes of the selected rows. -/
theorem Connection.answer_served {connection : Connection σ τ} {server : Server}
    (serves : connection.executor.Serves server) {session : Session} {operation : Operation}
    {edits : List Options.Edit} {answer : List Document → operation.Answer}
    (planned : session.plan connection.config connection.primaryKey operation =
      session.planRead edits answer)
    (resolved : session.target.fault? = none) {stages : List Stage} {shared between : Shared σ τ}
    (compiled : connection.readCommand session.target (session.options.editAll edits) shared =
      (.ok (aggregateCommand session.target stages), between)) {rows : List Document}
    (evaluates : server.run (stages.map Stage.toDocument) (server.rows session.target) =
      some rows) :
    (connection.perform session operation shared).1.1 = .ok (answer rows) := by
  rw [connection.answer_perform_read session planned resolved compiled]
  have served := serves session.target.database (aggregateCommand session.target stages)
    between.executor
  rw [server.answer_aggregateCommand, evaluates] at served
  generalize (connection.executor.answer _ between.executor).1 = reply at served ⊢
  cases reply with
  | error fault => contradiction
  | ok found =>
      cases served
      rfl

/-- A connection over a server, for examples of reads. -/
def servedConnection (server : Server) (version : ServerVersion) : Connection Unit Nat where
  executor := server.executor version
  codec := .counting
  config := { database := "app" }
  flawless := by decide

/-- A chain of settings on the users of the small server, for examples of reads. -/
def sampleSession (connection : Connection Unit Nat) (settings : List Setting) : Session :=
  settings.foldl (fun session setting => (connection.set session setting ⟨(), 0, none⟩).1)
    (connection.collection "users")

theorem reaches_sampleSession (connection : Connection Unit Nat) (settings : List Setting) :
    connection.Reaches (sampleSession connection settings) :=
  Connection.Reaches.foldl_set (.collection "users") settings ⟨(), 0, none⟩

end DocQuery
