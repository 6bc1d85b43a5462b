import DocQuery.Key.Codec
import DocQuery.Statement.Update
import DocQuery.Text.Blank

/-!
# Canonical documents

What a caller writes is brought into one form before it is sent. Names of fields lose the blanks
around them, and two names that become equal thereby are one field. A string under the primary key
is meant to be an identifier and is made one; every other value stays as it is. An update in its
brief form is sorted by operators.

New identifiers are drawn in the order in which the fields stand, one for each string that names
none, whether or not a later field takes its place.
-/

namespace DocQuery

/-- The field that identifies documents, and how what stands there is read. -/
structure PrimaryKey (τ : Type) where
  field : String
  codec : Codec τ

namespace PrimaryKey

variable {τ : Type} (key : PrimaryKey τ)

def canonicalValue (field : String) (value : Value) : StateM τ Value :=
  match value with
  | .string raw => if field = key.field then key.codec.readOrMint raw else pure (.string raw)
  | other => pure other

def canonicalEntry (entry : String × Value) : StateM τ (String × Value) := do
  let field := Text.trim entry.1
  return (field, ← key.canonicalValue field entry.2)

/-- The canonical form of a filter. Without fields it stays without fields. -/
def canonicalFilter (raw : Document) : StateM τ Document :=
  Fields.ofList <$> raw.entries.mapM key.canonicalEntry

/-- The canonical form of a document to be inserted, which has to have fields. -/
def canonicalInsert (raw : Document) : StateM τ (Except Fault Document) := do
  let document ← key.canonicalFilter raw
  return if document.isEmpty then .error .emptyDocument else .ok document

/-- The operator of a field of an update, and the canonical form of its operand. -/
def canonicalOperand (field : String) (value : Value) : StateM τ (String × Value) := do
  let (operator, operand) := (FieldUpdate.ofValue value).parts
  return (operator, ← key.canonicalValue field operand)

/-- Adds a field of an update in its brief form. -/
def addEntry (update : UpdateDocument) (entry : String × Value) : StateM τ UpdateDocument := do
  let field := Text.trim entry.1
  let (operator, operand) ← key.canonicalOperand field entry.2
  return update.add operator field operand

/-- Sorts an update in its brief form by operators. It has to ask for something. -/
def canonicalUpdate (raw : Document) : StateM τ (Except Fault UpdateDocument) := do
  let update ← raw.entries.foldlM key.addEntry .empty
  return if update.isEmpty then .error .emptyUpdate else .ok update

end PrimaryKey

end DocQuery
