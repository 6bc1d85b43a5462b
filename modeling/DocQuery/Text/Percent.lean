import DocQuery.Text.Hex
import DocQuery.Text.Utf8

/-!
# Percent escapes

A percent sign and two hexadecimal digits stand for a byte; the bytes are then read as UTF-8. A
percent sign without two digits behind it stands for itself.
-/

namespace DocQuery.Text.Percent

/-- Replaces each escape by the byte it stands for. -/
def unescape : List UInt8 → List UInt8
  | 0x25 :: high :: low :: rest =>
    match Hex.digit? high, Hex.digit? low with
    | some h, some l => (16 * h + l) :: unescape rest
    | _, _ => 0x25 :: unescape (high :: low :: rest)
  | byte :: rest => byte :: unescape rest
  | [] => []

/-- Whether every percent sign has two digits behind it. -/
def isEscaped : List UInt8 → Bool
  | 0x25 :: high :: low :: rest =>
    (Hex.digit? high).isSome && (Hex.digit? low).isSome && isEscaped rest
  | byte :: rest => byte ≠ 0x25 && isEscaped rest
  | [] => true

/-- The text that an escaped text stands for. -/
def decode (s : String) : String :=
  Utf8.decode (unescape (utf8 s))

/-- The text that an escaped text stands for, unless its bytes are no UTF-8. -/
def decode? (s : String) : Option String :=
  String.fromUTF8? (ByteArray.mk (unescape (utf8 s)).toArray)

end DocQuery.Text.Percent
