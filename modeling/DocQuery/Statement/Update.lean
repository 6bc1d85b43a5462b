import DocQuery.Document.Value

/-!
# Updates

An update document says for each operator which fields it applies to and with what operand. It is
written more briefly as a list of fields with plain values, each of which stands for a new value of
its field, or for a pair of an operator and an operand.
-/

namespace DocQuery

/-- What one field of an update asks for. -/
inductive FieldUpdate where
  | operator (name : String) (operand : Value)
  /-- A plain value, to be put into the field. -/
  | set (value : Value)

namespace FieldUpdate

/-- The operator that puts a value into a field. -/
def defaultOperator : String := "$set"

def isOperator (s : String) : Bool :=
  s.toList.head? = some '$'

/-- An array of exactly two items whose first is the name of an operator is a pair; everything else
is a plain value. -/
def ofValue : Value → FieldUpdate
  | .array [.string name, operand] =>
    if isOperator name then .operator name operand else .set (.array [.string name, operand])
  | value => .set value

def parts : FieldUpdate → String × Value
  | operator name operand => (name, operand)
  | set value => (defaultOperator, value)

end FieldUpdate

/-- Operators with the fields they apply to, in the order of their first use. -/
structure UpdateDocument where
  operators : Fields Document

namespace UpdateDocument

def empty : UpdateDocument := ⟨∅⟩

instance : Inhabited UpdateDocument := ⟨empty⟩

def add (update : UpdateDocument) (operator field : String) (operand : Value) : UpdateDocument :=
  let fields := (update.operators.get? operator).getD ∅
  ⟨update.operators.insert operator (fields.insert field operand)⟩

def isEmpty (update : UpdateDocument) : Bool :=
  update.operators.isEmpty

/-- The operators in the order of their first use. -/
def operatorNames (update : UpdateDocument) : List String :=
  update.operators.names

def toDocument (update : UpdateDocument) : Document :=
  update.operators.map Value.document

@[simp] theorem isEmpty_empty : empty.isEmpty = true := rfl

/-- An update with an operand asks for something. -/
@[simp] theorem isEmpty_add (update : UpdateDocument) (operator field : String) (operand : Value) :
    (update.add operator field operand).isEmpty = false := by
  simp [add, isEmpty]

end UpdateDocument

end DocQuery
