import DocQuery.Session.Plan

/-!
# Running operations

A plan is carried out by at most one write or one read. A read that counts asks for the version of
the server first, because only the stage that counts depends on it. The statement is kept as text,
and the identifiers of an insert are kept, only if the executor has not failed. In every case the
session goes on without options, so that nothing of one statement reaches the next.
-/

namespace DocQuery

variable {σ τ : Type}

namespace Connection

/-- The command that a read sends: the pipeline of its options, for the version of the server where
that matters. -/
def readCommand (connection : Connection σ τ) (target : Namespace) (options : Options) :
    StateM (Shared σ τ) (Except Fault Document) := do
  let version ← if options.countLabel.isSome then connection.serverVersion else pure (.ok default)
  return version.map fun version => aggregateCommand target (options.pipeline version)

def carryOut {α : Type} (connection : Connection σ τ) (session : Session) :
    Plan α → StateM (Shared σ τ) (Except Fault α × Session)
  | .done answer => return (answer, session)
  | .write write ids answer => do
    let bulk := write.bulk session.target connection.config.writeConcern
    match ← connection.send (.bulkWrite bulk) with
    | .error fault => return (.error fault, session)
    | .ok result =>
      return (.ok (answer result),
        { session with
          tracer := session.tracer.record session.target write.statement
          lastInsert := ids <|> session.lastInsert })
  | .read options answer => do
    match ← connection.readCommand session.target options with
    | .error fault => return (.error fault, session)
    | .ok command =>
      match ← connection.send (.command session.target.database command) with
      | .error fault => return (.error fault, session)
      | .ok rows =>
        return (.ok (answer rows),
          { session with tracer := session.tracer.record session.target (.command command) })

def perform (connection : Connection σ τ) (session : Session) (operation : Operation) :
    StateM (Shared σ τ) (Except Fault operation.Answer × Session) := do
  let plan ← onSource (session.plan connection.config connection.primaryKey operation)
  let (answer, session) ← connection.carryOut session plan
  return (answer, session.edit .reset)

def set (connection : Connection σ τ) (session : Session) (setting : Setting) :
    StateM (Shared σ τ) Session :=
  onSource (session.set connection.primaryKey setting)

end Connection

end DocQuery
