import DocQuery.Key.Codec
import DocQuery.Namespace
import DocQuery.Settings.WriteConcern

/-!
# Bulk writes

Writes are sent together, as a list of operations on one collection that is worked off in order.
Each inserted document carries its identifier; one that has none is given a new one, in front of its
other fields.
-/

namespace DocQuery

inductive WriteOperation where
  | insert (document : Document)
  | update (filter change : Document) (multi upsert : Bool)
  | delete (filter : Document) (justOne : Bool)

def WriteOperation.inserted? : WriteOperation → Option Document
  | insert document => some document
  | _ => none

/-- Operations on one collection. -/
structure BulkWrite where
  target : Namespace
  operations : List WriteOperation := []
  concern : Option WriteConcern := none

namespace BulkWrite

/-- The field in which an inserted document carries its identifier. -/
def idField : String := "_id"

/-- A document with its identifier, which is a new one if the document has none. -/
def identify {τ : Type} (codec : Codec τ) (document : Document) : StateM τ (Value × Document) :=
  match document.get? idField with
  | some id => pure (id, document)
  | none => fun source =>
    let (id, source) := codec.mint source
    ((id, (Fields.singleton idField id).insertAll document.entries), source)

def push (bulk : BulkWrite) (operation : WriteOperation) : BulkWrite :=
  { bulk with operations := bulk.operations ++ [operation] }

/-- Adds an insert and says what the identifier of the document is. -/
def insert {τ : Type} (codec : Codec τ) (bulk : BulkWrite) (document : Document) :
    StateM τ (Value × BulkWrite) := do
  let (id, document) ← identify codec document
  return (id, bulk.push (.insert document))

def insertedDocuments (bulk : BulkWrite) : List Document :=
  bulk.operations.filterMap WriteOperation.inserted?

def size (bulk : BulkWrite) : Nat :=
  bulk.operations.length

def isEmpty (bulk : BulkWrite) : Bool :=
  bulk.operations.isEmpty

@[simp] theorem operations_push (bulk : BulkWrite) (operation : WriteOperation) :
    (bulk.push operation).operations = bulk.operations ++ [operation] := rfl

@[simp] theorem target_push (bulk : BulkWrite) (operation : WriteOperation) :
    (bulk.push operation).target = bulk.target := rfl

@[simp] theorem concern_push (bulk : BulkWrite) (operation : WriteOperation) :
    (bulk.push operation).concern = bulk.concern := rfl

end BulkWrite

/-- What a bulk write has done, in numbers of documents. -/
structure WriteResult where
  inserted : UInt64 := 0
  matched : UInt64 := 0
  modified : UInt64 := 0
  upserted : UInt64 := 0
  deleted : UInt64 := 0
deriving DecidableEq, Repr

namespace WriteResult

instance : Inhabited WriteResult := ⟨{}⟩

def add (a b : WriteResult) : WriteResult where
  inserted := a.inserted + b.inserted
  matched := a.matched + b.matched
  modified := a.modified + b.modified
  upserted := a.upserted + b.upserted
  deleted := a.deleted + b.deleted

instance : Add WriteResult := ⟨add⟩

end WriteResult

end DocQuery
