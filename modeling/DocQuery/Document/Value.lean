import DocQuery.Calendar
import DocQuery.Document.Fields
import DocQuery.Document.ObjectId
import DocQuery.Number.Decimal128
import DocQuery.Number.Double

/-!
# Values and documents

The values that a document store knows. A document is a list of named values in order; arrays and
documents nest without bound.

One kind of value that servers still know is left out: the deprecated pointer to a document of
another collection. Nothing here makes such a pointer or looks into one.
-/

namespace DocQuery

/-- A value of a field. -/
inductive Value where
  | null
  | bool (b : Bool)
  | int32 (n : Int32)
  | int64 (n : Int64)
  | double (x : Double)
  | string (s : String)
  | array (items : List Value)
  | document (fields : Fields Value)
  | objectId (id : ObjectId)
  | dateTime (t : DateTime)
  /-- Bytes with a number that says what they are for. -/
  | binary (subtype : UInt8) (bytes : List UInt8)
  | regex (pattern options : String)
  | code (source : String)
  /-- Code together with the values of its free variables. -/
  | scopedCode (source : String) (scope : Fields Value)
  /-- A point in the server's own log: seconds and a counter within the second. -/
  | timestamp (time increment : UInt32)
  | symbol (s : String)
  | decimal128 (d : Decimal128)
  | undefined
  | minKey
  | maxKey

instance : Inhabited Value := ⟨.null⟩

abbrev Document := Fields Value

end DocQuery
