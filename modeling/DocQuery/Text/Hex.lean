/-!
# Hexadecimal digits

Bytes are written as two lower-case digits, high half first. Digits are read in either case, from
the bytes of a text, so that a flaw can be reported at the byte where it stands.
-/

namespace DocQuery.Text.Hex

def ofByte (b : UInt8) : List Char :=
  [Nat.digitChar (b.toNat / 16), Nat.digitChar (b.toNat % 16)]

def encode (bytes : List UInt8) : List Char :=
  bytes.flatMap ofByte

/-- The digits of a byte without a leading zero. -/
def unpadded (b : UInt8) : List Char :=
  Nat.toDigits 16 b.toNat

/-- The value of an ASCII byte as a hexadecimal digit of either case. -/
def digit? (b : UInt8) : Option UInt8 :=
  if 0x30 ≤ b ∧ b ≤ 0x39 then some (b - 0x30)
  else if 0x61 ≤ b ∧ b ≤ 0x66 then some (b - 0x57)
  else if 0x41 ≤ b ∧ b ≤ 0x46 then some (b - 0x37)
  else none

/-- Why bytes are no hexadecimal digits. -/
inductive Flaw where
  /-- A digit is left over. -/
  | odd
  /-- The byte at this index is no digit. -/
  | badDigit (byte : UInt8) (index : Nat)
deriving DecidableEq, Repr

/-- Joins digits to bytes, two at a time; `index` is the place of the first digit. -/
def decodeFrom (index : Nat) : List UInt8 → Except Flaw (List UInt8)
  | [] => .ok []
  | [_] => .error .odd
  | high :: low :: rest =>
    match digit? high, digit? low with
    | none, _ => .error (.badDigit high index)
    | some _, none => .error (.badDigit low (index + 1))
    | some h, some l => (decodeFrom (index + 2) rest).map ((16 * h + l) :: ·)

/-- Joins digits to bytes. An odd number of digits is refused before any of them is looked at. -/
def decode (digits : List UInt8) : Except Flaw (List UInt8) :=
  if digits.length % 2 = 1 then .error .odd else decodeFrom 0 digits

end DocQuery.Text.Hex
