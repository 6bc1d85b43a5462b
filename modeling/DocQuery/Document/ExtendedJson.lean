import DocQuery.Document.Value
import DocQuery.Json.Basic
import DocQuery.Number.Shortest
import DocQuery.Text.Base64

/-!
# Documents as JSON

Values that JSON knows are written as such; the others become objects whose single name starts with
a dollar sign and says what the value is. This is the relaxed form, in which numbers of different
width look alike, and in which a point in time is written as a date wherever that is possible. The
variables that a code is run with are written in a plainer form of their own.
-/

namespace DocQuery

/-- Doubles in JSON have a point or an exponent. They are written positionally from one
hundred-thousandth up to ten to the sixteenth, and ties go to the even digit. -/
def Double.jsonLayout : Layout where
  positional point := -5 < point ∧ point ≤ 16
  wholeSuffix := ".0"
  tie := .even

namespace Value

/-- An object with a single member. -/
def tagged (name : String) (json : Json) : Json :=
  .object [(some name, json)]

/-- A double that has a numeral, as a number. -/
def numeralJson (x : Double) : Json :=
  .real (Double.jsonLayout.render x)

/-- A double as JSON. What is not finite has no numeral and is named instead, with its sign. -/
def doubleJson (x : Double) : Json :=
  let named (name : String) :=
    tagged "$numberDouble" (.text (if x.isNegative then "-" ++ name else name))
  if x.isNaN then named "NaN"
  else if x.isInfinite then named "Infinity"
  else numeralJson x

/-- A point in time as its count of milliseconds. -/
def millisJson (t : DateTime) : Json :=
  tagged "$date" (tagged "$numberLong" (.text (Text.Numeral.ofInt t.millis.toInt)))

/-- A point in time as JSON: its date where it has one, and its count of milliseconds elsewhere. -/
def dateTimeJson (t : DateTime) : Json :=
  if t.hasTimestamp then tagged "$date" (.text t.timestamp) else millisJson t

/-- Bytes as JSON: their base64 text, and two digits that say what they are for. -/
def binaryJson (subtype : UInt8) (bytes : List UInt8) : Json :=
  tagged "$binary" <| .object
    [(some "base64", .text (String.ofList (Text.Base64.encode bytes))),
     (some "subType", .text (String.ofList (Text.Hex.ofByte subtype)))]

def regexJson (pattern options : String) : Json :=
  tagged "$regularExpression" <|
    .object [(some "pattern", .text pattern), (some "options", .text options)]

/-- How those values are written that the two forms write differently. -/
structure JsonForm where
  double : Double → Json
  dateTime : DateTime → Json
  binary : UInt8 → List UInt8 → Json
  regex : String → String → Json

namespace JsonForm

/-- The relaxed form. The order of the options of a regular expression has no meaning, so they are
sorted. -/
def relaxed : JsonForm where
  double := doubleJson
  dateTime := dateTimeJson
  binary := binaryJson
  regex pattern options := regexJson pattern (String.ofList (options.toList.mergeSort (· ≤ ·)))

/-- The form of the variables of a code. A double without a numeral is null, a point in time is
always a count, bytes that are for nothing in particular are numbers, and the options of a regular
expression stand as they are given. -/
def plain : JsonForm where
  double x := if x.isNaN || x.isInfinite then .null else numeralJson x
  dateTime := millisJson
  binary subtype bytes :=
    if subtype = 0 then .array (bytes.map fun byte => .int byte.toNat) else binaryJson subtype bytes
  regex := regexJson

end JsonForm

mutual

/-- A value as JSON in one of the two forms. -/
def toJsonIn (form : JsonForm) : Value → Json
  | .null => .null
  | .bool b => .bool b
  | .int32 n => .int n.toInt
  | .int64 n => .int n.toInt
  | .double x => form.double x
  | .string s => .text s
  | .array items => .array (itemsToJson form items)
  | .document ⟨entries⟩ => .object (entriesToJson form entries)
  | .objectId id => tagged "$oid" (.text id.toHex)
  | .dateTime t => form.dateTime t
  | .binary subtype bytes => form.binary subtype bytes
  | .regex pattern options => form.regex pattern options
  | .code source => tagged "$code" (.text source)
  | .scopedCode source ⟨entries⟩ =>
    .object
      [(some "$code", .text source), (some "$scope", .object (entriesToJson .plain entries))]
  | .timestamp time increment =>
    tagged "$timestamp" <|
      .object [(some "t", .int time.toNat), (some "i", .int increment.toNat)]
  | .symbol s => tagged "$symbol" (.text s)
  | .decimal128 d => tagged "$numberDecimal" (.text d.text)
  | .undefined => tagged "$undefined" (.bool true)
  | .minKey => tagged "$minKey" (.int 1)
  | .maxKey => tagged "$maxKey" (.int 1)

def itemsToJson (form : JsonForm) : List Value → List Json
  | [] => []
  | item :: items => toJsonIn form item :: itemsToJson form items

/-- Named values as the members of an object. -/
def entriesToJson (form : JsonForm) : List (String × Value) → List (Option String × Json)
  | [] => []
  | (name, value) :: entries => (some name, toJsonIn form value) :: entriesToJson form entries

end

/-- A value as relaxed extended JSON. -/
def toJson (value : Value) : Json :=
  value.toJsonIn .relaxed

theorem entriesToJson_eq_map (form : JsonForm) (entries : List (String × Value)) :
    entriesToJson form entries =
      entries.map fun entry => (some entry.1, toJsonIn form entry.2) := by
  induction entries with
  | nil => rfl
  | cons entry entries ih => rw [entriesToJson, ih, List.map_cons]

end Value

end DocQuery
