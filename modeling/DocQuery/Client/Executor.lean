import DocQuery.Client.Driver
import DocQuery.Document.Display
import DocQuery.Executor.Basic

/-!
# The executor of a client

A client runs requests by calls of its driver. The operations of a bulk write are run one after
another, up to the first call that fails. Inserts are held back until another operation comes, or
the end, and then go together in one call; every other operation is a call of its own. A command
that runs a pipeline is made an aggregation, and any other command is passed on as it is.
-/

namespace DocQuery.Client

variable {σ : Type}

/-- What the reply to a call adds to the result of a bulk write. -/
def contribution : (call : Call) → call.Reply → WriteResult
  | .insertMany .., (count : UInt64) => { inserted := count }
  | .update .., (reply : UpdateReply) =>
    { matched := reply.matched
      modified := reply.modified
      upserted := if reply.upsertedId.isSome then 1 else 0 }
  | .delete .., (count : UInt64) => { deleted := count }
  | .aggregate .., _ => {}
  | .runCommand .., _ => {}

section BulkWrites

variable (driver : Driver σ) (target : Namespace) (concern : Option DriverConcern)

/-- Makes a call of a bulk write. -/
def write (call : Call) : ExceptT ClientFault (StateM σ) WriteResult := do
  let reply ← driver.answer call
  return contribution call reply

/-- Makes the call for the inserts that have been held back, if there are any. -/
def flush (pending : List Document) : ExceptT ClientFault (StateM σ) WriteResult :=
  if pending.isEmpty then return {}
  else write driver (.insertMany target pending true concern)

/-- Runs the operations of a bulk write. What has been done so far and the inserts that are held
back are taken along. -/
def runOperations (result : WriteResult) (pending : List Document) :
    List WriteOperation → ExceptT ClientFault (StateM σ) WriteResult
  | [] => do
    return result + (← flush driver target concern pending)
  | .insert document :: operations => runOperations result (pending ++ [document]) operations
  | .update filter change multi upsert :: operations => do
    let inserted ← flush driver target concern pending
    let updated ← write driver (.update target filter change multi upsert concern)
    runOperations (result + inserted + updated) [] operations
  | .delete filter justOne :: operations => do
    let inserted ← flush driver target concern pending
    let deleted ← write driver (.delete target filter justOne concern)
    runOperations (result + inserted + deleted) [] operations

end BulkWrites

def bulkWrite (driver : Driver σ) (bulk : BulkWrite) :
    StateM σ (Except ClientFault WriteResult) :=
  runOperations driver bulk.target (bulk.concern.map WriteConcern.toDriver) {} [] bulk.operations

/-- The documents among the stages of a pipeline, all of which have to be documents. -/
def stages : List Value → Except ClientFault (List Document)
  | [] => .ok []
  | .document stage :: rest => (stage :: ·) <$> stages rest
  | other :: _ =>
    .error (.malformedReply "aggregate" ("pipeline stage is not a document: " ++ other.text))

/-- Runs a pipeline and fetches all its rows. -/
def aggregate (driver : Driver σ) (target : Namespace) (stages : List Document) :
    StateM σ (Except ClientFault (List Document)) := do
  let reply ← driver.answer (.aggregate target stages)
  return reply.bind Cursor.drain

/-- Runs a command. Everything is checked before the driver is called. -/
def command (driver : Driver σ) (database : String) (command : Document) :
    StateM σ (Except ClientFault (List Document)) :=
  match command.get? "aggregate" with
  | some (.string collection) =>
    let pipeline := match command.get? "pipeline" with
      | some (.array items) => stages items
      | _ => .ok []
    match pipeline with
    | .error fault => return .error fault
    | .ok pipeline => aggregate driver ⟨database, collection⟩ pipeline
  | _ => do
    let reply ← driver.answer (.runCommand database command)
    return (fun (document : Document) => [document]) <$> reply

/-- The version in the description that a server gives of itself. -/
def versionOf (description : Document) : Except ClientFault ServerVersion :=
  match description.get? "version" with
  | some (.string s) =>
    match ServerVersion.parse s with
    | .ok version => .ok version
    | .error fault => .error (.malformedReply "buildInfo" fault.message)
  | _ => .error (.malformedReply "buildInfo" "missing version")

def serverVersion (driver : Driver σ) : StateM σ (Except ClientFault ServerVersion) := do
  let reply ← driver.answer (.runCommand "admin" (.singleton "buildInfo" (.int32 1)))
  return reply.bind versionOf

def isAlive (driver : Driver σ) : StateM σ Bool := do
  let reply ← driver.answer (.runCommand "admin" (.singleton "ping" (.int32 1)))
  return reply.isOk

def executor (driver : Driver σ) : Executor σ where
  answer
    | .version => do return (← serverVersion driver).mapError ClientFault.toFault
    | .bulkWrite bulk => do return (← Client.bulkWrite driver bulk).mapError ClientFault.toFault
    | .command database command => do
      return (← Client.command driver database command).mapError ClientFault.toFault

end DocQuery.Client
