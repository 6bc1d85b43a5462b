import DocQuery.Client.Concern
import DocQuery.Client.Fault
import DocQuery.Document.Value
import DocQuery.Namespace

/-!
# Driver calls

A driver offers five kinds of calls on a server, and each kind of call has its own kind of reply. As
with executors, nothing is assumed of how a driver arrives at its answers.
-/

namespace DocQuery

inductive Call where
  | insertMany (target : Namespace) (documents : List Document) (ordered : Bool)
      (concern : Option DriverConcern)
  /-- Updates every match, or only the first. -/
  | update (target : Namespace) (filter change : Document) (multi upsert : Bool)
      (concern : Option DriverConcern)
  /-- Deletes only the first match, or every one. -/
  | delete (target : Namespace) (filter : Document) (justOne : Bool)
      (concern : Option DriverConcern)
  /-- Runs a pipeline. -/
  | aggregate (target : Namespace) (stages : List Document)
  | runCommand (database : String) (command : Document)

structure UpdateReply where
  matched : UInt64 := 0
  modified : UInt64 := 0
  /-- The identifier of the document that the update has inserted, if it has inserted one. -/
  upsertedId : Option Value := none

/-- The rows of an aggregation: what is fetched one time after another. Each time there is a portion
of rows, unless fetching it fails. -/
abbrev Cursor := List (Except ClientFault (List Document))

/-- All rows of a cursor, or the first fault that is met on the way to its end. -/
def Cursor.drain : Cursor → Except ClientFault (List Document)
  | [] => .ok []
  | .error fault :: _ => .error fault
  | .ok rows :: cursor => (rows ++ ·) <$> drain cursor

/-- What a call is answered with: the number of inserted documents, the counters of an update, the
number of deleted documents, a cursor, or a document. -/
abbrev Call.Reply : Call → Type
  | insertMany .. => UInt64
  | update .. => UpdateReply
  | delete .. => UInt64
  | aggregate .. => Cursor
  | runCommand .. => Document

/-- Answers calls, over a state of its own. -/
structure Driver (σ : Type) where
  answer : (call : Call) → StateM σ (Except ClientFault call.Reply)

namespace Cursor

theorem drain_portions (portions : List (List Document)) :
    drain (portions.map .ok) = .ok portions.flatten := by
  induction portions with
  | nil => rfl
  | cons rows portions ih =>
      rw [List.map_cons, drain, ih]
      rfl

/-- A fault makes no difference to where it is met, and nothing behind it counts. -/
theorem drain_fault (portions : List (List Document)) (fault : ClientFault) (rest : Cursor) :
    drain (portions.map .ok ++ .error fault :: rest) = .error fault := by
  induction portions with
  | nil => rfl
  | cons rows portions ih =>
      rw [List.map_cons, List.cons_append, drain, ih]
      rfl

end Cursor

end DocQuery
