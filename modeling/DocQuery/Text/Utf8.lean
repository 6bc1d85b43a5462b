/-!
# Bytes of a text

A text is stored and sent as UTF-8, one to four bytes for each character. Bytes are read back from
the left. Where they are no UTF-8, the bytes that start a character without ending it are read as
one replacement character, and so is each byte that begins none.
-/

namespace DocQuery.Text

def utf8 (s : String) : List UInt8 :=
  s.toList.flatMap String.utf8EncodeChar

namespace Utf8

/-- What stands for bytes that are no UTF-8. -/
def replacement : Char := '\ufffd'

/-- A character of which some bytes have been read. -/
structure Unfinished where
  /-- The bits that have been read. -/
  bits : Nat
  /-- The number of bytes to come. -/
  missing : Nat
  /-- The least and the greatest byte that may come next. -/
  least : UInt8 := 0x80
  greatest : UInt8 := 0xBF

/-- What has been read, and the character that has been begun. -/
abbrev Progress := List Char × Option Unfinished

/-- Reads the first byte of a character. What follows some of these bytes is narrowed, so that each
character has one spelling only and surrogates have none. -/
def start (b : UInt8) : Progress :=
  let bits := b.toNat
  if b < 0x80 then ([.ofNat bits], none)
  else if b < 0xC2 then ([replacement], none)
  else if b < 0xE0 then ([], some { bits := bits % 32, missing := 1 })
  else if b = 0xE0 then ([], some { bits := 0, missing := 2, least := 0xA0 })
  else if b = 0xED then ([], some { bits := 13, missing := 2, greatest := 0x9F })
  else if b < 0xF0 then ([], some { bits := bits % 16, missing := 2 })
  else if b = 0xF0 then ([], some { bits := 0, missing := 3, least := 0x90 })
  else if b < 0xF4 then ([], some { bits := bits % 8, missing := 3 })
  else if b = 0xF4 then ([], some { bits := 4, missing := 3, greatest := 0x8F })
  else ([replacement], none)

/-- Reads a byte that goes on with a character. -/
def Unfinished.extend (u : Unfinished) (b : UInt8) : Progress :=
  let bits := 64 * u.bits + b.toNat % 64
  if u.missing = 1 then ([.ofNat bits], none)
  else ([], some { bits, missing := u.missing - 1 })

/-- Reads a byte. One that does not go on with the character that has been begun begins anew. -/
def feed : Option Unfinished → UInt8 → Progress
  | none, b => start b
  | some u, b =>
    if u.least ≤ b ∧ b ≤ u.greatest then u.extend b
    else (replacement :: (start b).1, (start b).2)

/-- The characters of bytes, the first of which may go on with a character that has been begun. -/
def decodeFrom : Option Unfinished → List UInt8 → List Char
  | none, [] => []
  | some _, [] => [replacement]
  | u, b :: bs => (feed u b).1 ++ decodeFrom (feed u b).2 bs

/-- The text of bytes, with a replacement character wherever they are no UTF-8. -/
def decode (bytes : List UInt8) : String :=
  String.ofList (decodeFrom none bytes)

end Utf8

end DocQuery.Text
