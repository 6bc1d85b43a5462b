import DocQuery.Document.Value
import DocQuery.Number.Shortest
import DocQuery.Text.Base64

/-!
# Values as they are shown to people

The display text of a value resembles the notation of the server's shell. It is meant to be read and
not to be parsed: strings are quoted without escapes, and numbers of different width look alike.
-/

namespace DocQuery

/-- Displayed doubles never carry an exponent, whole ones have no point, and of two shortest
decimals that are equally close the greater is taken. -/
def Double.displayLayout : Layout where
  positional _ := true
  wholeSuffix := ""
  tie := .up

/-- The display text of a double. No number has no sign. -/
def Double.text (x : Double) : String :=
  if x.isNaN then "NaN"
  else if x.isInfinite then if x.isNegative then "-inf" else "inf"
  else Double.displayLayout.render x

namespace Value

/-- Bytes behind the number that says what they are for. -/
def binaryText (subtype : UInt8) (bytes : List UInt8) : String :=
  "Binary(0x" ++ String.ofList (Text.Hex.unpadded subtype) ++ ", " ++
    String.ofList (Text.Base64.encode bytes) ++ ")"

mutual

def text : Value → String
  | .null => "null"
  | .bool b => if b then "true" else "false"
  | .int32 n => Text.Numeral.ofInt n.toInt
  | .int64 n => Text.Numeral.ofInt n.toInt
  | .double x => x.text
  | .string s => "\"" ++ s ++ "\""
  | .array items => "[" ++ ", ".intercalate (itemTexts items) ++ "]"
  | .document ⟨[]⟩ => "\x7b\x7d"
  | .document ⟨entry :: entries⟩ =>
    "\x7b " ++ ", ".intercalate (entryTexts (entry :: entries)) ++ " \x7d"
  | .objectId id => "ObjectId(\"" ++ id.toHex ++ "\")"
  | .dateTime t => "DateTime(\"" ++ t.text ++ "\")"
  | .binary subtype bytes => binaryText subtype bytes
  | .regex pattern options => "/" ++ pattern ++ "/" ++ options
  | .code source => source
  | .scopedCode source _ => source
  | .timestamp time increment =>
    "Timestamp(" ++ Text.Numeral.ofNat time.toNat ++ ", " ++
      Text.Numeral.ofNat increment.toNat ++ ")"
  | .symbol s => "Symbol(\"" ++ s ++ "\")"
  | .decimal128 d => d.text
  | .undefined => "undefined"
  | .minKey => "MinKey"
  | .maxKey => "MaxKey"

def itemTexts : List Value → List String
  | [] => []
  | item :: items => text item :: itemTexts items

/-- The display texts of named values: the name in quotes, a colon, the value. -/
def entryTexts : List (String × Value) → List String
  | [] => []
  | (name, value) :: entries => ("\"" ++ name ++ "\": " ++ text value) :: entryTexts entries

end

end Value

end DocQuery
