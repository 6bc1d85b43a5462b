import DocQuery.Json.Basic
import DocQuery.Text.Numeral

/-!
# Compact JSON text

A tree is written without any blank characters. In a string, the quotation mark, the reverse
solidus and the control characters below the blank are escaped, with the short escape where there is
one; everything else stands for itself.
-/

namespace DocQuery.Json

/-- The characters of one character inside a string literal. -/
def escape (c : Char) : List Char :=
  match c with
  | '"' => ['\\', '"']
  | '\\' => ['\\', '\\']
  | '\x08' => ['\\', 'b']
  | '\x0c' => ['\\', 'f']
  | '\n' => ['\\', 'n']
  | '\r' => ['\\', 'r']
  | '\t' => ['\\', 't']
  | c =>
    if c.toNat < 0x20 then
      ['\\', 'u', '0', '0', Nat.digitChar (c.toNat / 16), Nat.digitChar (c.toNat % 16)]
    else [c]

/-- A string literal. One that denotes no text is written as half a surrogate pair. -/
def quoted : Option String → List Char
  | some s => '"' :: s.toList.flatMap escape ++ ['"']
  | none => ['"', '\\', 'u', 'd', '8', '0', '0', '"']

mutual

def chars : Json → List Char
  | .null => ['n', 'u', 'l', 'l']
  | .bool true => ['t', 'r', 'u', 'e']
  | .bool false => ['f', 'a', 'l', 's', 'e']
  | .int n => Text.Numeral.intChars n
  | .real literal => literal.toList
  | .string text => quoted text
  | .array [] => ['[', ']']
  | .array (item :: items) => '[' :: chars item ++ itemsTail items
  | .object [] => ['\x7b', '\x7d']
  | .object ((name, value) :: members) =>
    '\x7b' :: quoted name ++ ':' :: chars value ++ membersTail members

/-- What follows an item of an array. -/
def itemsTail : List Json → List Char
  | [] => [']']
  | item :: items => ',' :: chars item ++ itemsTail items

/-- What follows a member of an object. -/
def membersTail : List (Option String × Json) → List Char
  | [] => ['\x7d']
  | (name, value) :: members => ',' :: quoted name ++ ':' :: chars value ++ membersTail members

end

def compact (json : Json) : String :=
  String.ofList json.chars

end DocQuery.Json
