import DocQuery.Session.Basic

/-!
# Terminal operations

A chain of settings ends with an operation, which makes a statement of the options and runs it. The
operations and their answers are listed here, together with what is made of the rows of a read.
-/

namespace DocQuery

/-- What has become of an insert of several documents. -/
structure InsertedMany where
  count : UInt64
  ids : List Value

/-- What the rows of a read say about one field, or about several. -/
inductive Column where
  | values (values : List Value)
  /-- Rows under the text of their first field. -/
  | keyed (rows : Fields Document)

/-- What a session is asked to run. -/
inductive Operation where
  | insert (raw : Document)
  | insertGetId (raw : Document)
  | insertAll (raws : List Document)
  | update (raw : Document)
  | setField (field : String) (value : Value)
  | increment (field : String) (step : Int64)
  | decrement (field : String) (step : Int64)
  | delete
  | select
  | find
  | value (field : String)
  | column (fields : String)
  | count
  | page (number : Int64)

/-- What an operation is answered with if nothing goes wrong. -/
abbrev Operation.Answer : Operation → Type
  | insert _ | update _ | setField _ _ | increment _ _ | decrement _ _ | delete | count => UInt64
  | insertGetId _ => Value
  | insertAll _ => InsertedMany
  | select | page _ => List Document
  | find => Option Document
  | value _ => Option Value
  | column _ => Column

namespace Column

/-- What the rows say about the named fields: the values of a single one, and otherwise the rows
themselves under the text of the first. A row without that field says nothing. -/
def ofRows (names : List String) (rows : List Document) : Column :=
  match names with
  | [] => .values []
  | [name] => .values (rows.filterMap (·.get? name))
  | name :: _ :: _ =>
    .keyed <| .ofList <| rows.filterMap fun row =>
      (row.get? name).map fun value => (Codec.objectIdText value, row)

end Column

def countLabel : String := "__count__"

/-- The number that a value is, if it is a number that is not negative, and zero otherwise. -/
def countOfValue : Value → UInt64
  | .int32 n => .ofNat n.toInt.toNat
  | .int64 n => .ofNat n.toInt.toNat
  | .double x => if x.isPositive then x.toWord else 0
  | _ => 0

/-- The number in the first row of a count. -/
def countOfRows (rows : List Document) : UInt64 :=
  match rows.head?.bind (·.get? countLabel) with
  | some value => countOfValue value
  | none => 0

end DocQuery
