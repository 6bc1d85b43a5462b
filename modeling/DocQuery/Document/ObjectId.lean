import DocQuery.Text.Hex
import DocQuery.Text.Numeral
import DocQuery.Text.Utf8

/-!
# Object identifiers

The identifiers that a server of documents gives out by itself are twelve bytes, written as
twenty-four hexadecimal digits. A text is read byte by byte, so that the place of a flaw is counted
in bytes; what makes a text unreadable is kept as a cause, and its wording stands in one place.
-/

namespace DocQuery

/-- Twelve bytes that identify a document. -/
structure ObjectId where
  bytes : List UInt8
  length_eq : bytes.length = 12
deriving DecidableEq, Repr

namespace ObjectId

/-- The twenty-four digits of an identifier, in lower case. -/
def toHex (id : ObjectId) : String :=
  String.ofList (Text.Hex.encode id.bytes)

/-- The low `width` bytes of a number, the highest of them first. -/
def bigEndian : (width : Nat) → Nat → List UInt8
  | 0, _ => []
  | width + 1, n => bigEndian width (n / 256) ++ [UInt8.ofNat n]

@[simp] theorem length_bigEndian (width n : Nat) : (bigEndian width n).length = width := by
  induction width generalizing n with
  | zero => rfl
  | succ width ih => simp [bigEndian, ih]

/-- The identifier whose bytes are a number in base 256. -/
def ofNat (n : Nat) : ObjectId :=
  ⟨bigEndian 12 n, length_bigEndian 12 n⟩

/-- Why a text names no identifier. -/
inductive Malformed where
  /-- The digits do not make up twelve bytes. -/
  | wrongLength
  /-- The byte at this index is no hexadecimal digit. -/
  | badDigit (byte : UInt8) (index : Nat)
deriving DecidableEq, Repr

/-- Reads an identifier. A digit left over is noticed first, then a byte that is no digit, then a
number of bytes other than twelve. -/
def parse (s : String) : Except Malformed ObjectId :=
  match Text.Hex.decode (Text.utf8 s) with
  | .error .odd => .error .wrongLength
  | .error (.badDigit byte index) => .error (.badDigit byte index)
  | .ok bytes => if h : bytes.length = 12 then .ok ⟨bytes, h⟩ else .error .wrongLength

/-- The wording of a cause for the text it was found in. A byte is shown as the character with its
number. -/
def Malformed.message (s : String) : Malformed → String
  | .wrongLength =>
    "provided hex string representation must be exactly 12 bytes, instead got: \"" ++ s ++
      "\", length " ++ Text.Numeral.ofNat s.utf8ByteSize
  | .badDigit byte index =>
    "invalid character '" ++ (Char.ofNat byte.toNat).toString ++ "' was found at index " ++
      Text.Numeral.ofNat index ++ " in the provided hex string: \"" ++ s ++ "\""

example : (ofNat 258).toHex = "000000000000000000000102" := by decide

end ObjectId

end DocQuery
