import DocQuery.Statement.BulkWrite
import DocQuery.Statement.Shell

/-!
# Writes of a session

A session writes in three ways: it inserts documents, it updates what a filter matches, or it
removes what a filter matches. Each way has its operations of a bulk write, and its statement for
diagnostics; both are made of the same data.
-/

namespace DocQuery

inductive Write where
  | insert (documents : List Document)
  | update (filter change : Document) (multi upsert : Bool)
  | remove (filter : Document) (justOne : Bool)

namespace Write

def operations : Write → List WriteOperation
  | insert documents => documents.map .insert
  | update filter change multi upsert => [.update filter change multi upsert]
  | remove filter justOne => [.delete filter justOne]

def bulk (write : Write) (target : Namespace) (concern : Option WriteConcern) : BulkWrite :=
  ⟨target, write.operations, concern⟩

def statement : Write → Statement
  | insert documents => .insert documents
  | update filter change multi upsert => .update filter change multi upsert
  | remove filter justOne => .remove filter justOne

/-- The documents of an insert are shown in the order in which they are sent. -/
@[simp] theorem insertedDocuments_bulk_insert (documents : List Document) (target : Namespace)
    (concern : Option WriteConcern) :
    ((insert documents).bulk target concern).insertedDocuments = documents := by
  induction documents with
  | nil => rfl
  | cons document documents ih =>
    simpa [BulkWrite.insertedDocuments, bulk, operations, WriteOperation.inserted?] using ih

end Write

end DocQuery
