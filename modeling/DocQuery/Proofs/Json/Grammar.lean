import DocQuery.Json.Parser

/-!
# The grammar of JSON

Which texts spell a tree is told without the reader: what may stand inside a string literal, of
which parts a numeral is made, and how values are put together, with blanks wherever they are
allowed. A tree has many spellings. What a literal or a numeral stands for is told by the functions
that the reader uses for it too, once the parts are known.
-/

namespace DocQuery.Json

namespace Grammar

def Blanks (cs : List Char) : Prop :=
  ∀ c ∈ cs, Parser.isBlank c = true

/-- What stands inside a string literal, and the code units that it stands for. -/
inductive Units : List Char → List Nat → Prop where
  | nil : Units [] []
  | plain {c : Char} {cs : List Char} {us : List Nat} (visible : 0x20 ≤ c.toNat) (mark : c ≠ '"')
      (solidus : c ≠ '\\') (more : Units cs us) : Units (c :: cs) (c.toNat :: us)
  | short {c d : Char} {cs : List Char} {us : List Nat} (stands : Parser.shortEscape? c = some d)
      (more : Units cs us) : Units ('\\' :: c :: cs) (d.toNat :: us)
  | long {a b c d : Char} {n : Nat} {cs : List Char} {us : List Nat}
      (stands : Parser.codeUnit? a b c d = some n) (more : Units cs us) :
      Units ('\\' :: 'u' :: a :: b :: c :: d :: cs) (n :: us)

/-- A string literal and its text, if it denotes one. -/
inductive Literal : List Char → Option String → Prop where
  | intro {cs : List Char} {us : List Nat} (units : Units cs us) :
      Literal ('"' :: cs ++ ['"']) ((Parser.join us).map String.ofList)

/-- The name of a member, with blanks around it. -/
inductive Label : List Char → Option String → Prop where
  | intro {before cs after : List Char} {name : Option String} (front : Blanks before)
      (literal : Literal cs name) (back : Blanks after) : Label (before ++ cs ++ after) name

def Digits (cs : List Char) : Prop :=
  cs ≠ [] ∧ ∀ c ∈ cs, c.isDigit = true

/-- The fraction of a numeral, if it has one. -/
inductive Fraction : List Char → Prop where
  | none : Fraction []
  | some {digits : List Char} (ascii : Digits digits) : Fraction ('.' :: digits)

/-- The exponent of a numeral, if it has one. -/
inductive Exponent : List Char → Prop where
  | none : Exponent []
  | some {mark : Char} {sign digits : List Char} (marked : mark = 'e' ∨ mark = 'E')
      (signed : sign = [] ∨ sign = ['+'] ∨ sign = ['-']) (ascii : Digits digits) :
      Exponent (mark :: sign ++ digits)

structure Numeral (sign whole fraction exponent : List Char) : Prop where
  signed : sign = [] ∨ sign = ['-']
  ascii : Digits whole
  leading : whole = ['0'] ∨ whole.head? ≠ some '0'
  fractional : Fraction fraction
  scaled : Exponent exponent

/-- A member of an object, and how it is written. -/
structure Member where
  name : Option String
  value : Json
  label : List Char
  content : List Char

def Member.chars (member : Member) : List Char :=
  member.label ++ ':' :: member.content

end Grammar

open Grammar

/-- A text spells a tree. -/
inductive Spells : List Char → Json → Prop where
  | null : Spells ['n', 'u', 'l', 'l'] .null
  | yes : Spells ['t', 'r', 'u', 'e'] (.bool true)
  | no : Spells ['f', 'a', 'l', 's', 'e'] (.bool false)
  | number {sign whole fraction exponent : List Char}
      (numeral : Numeral sign whole fraction exponent) :
      Spells (sign ++ whole ++ fraction ++ exponent)
        (Parser.ofParts sign whole fraction exponent)
  | string {cs : List Char} {text : Option String} (literal : Literal cs text) :
      Spells cs (.string text)
  | noItems {cs : List Char} (blanks : Blanks cs) : Spells ('[' :: cs ++ [']']) (.array [])
  | items {pieces : List (Json × List Char)} (nonempty : pieces ≠ [])
      (all : ∀ piece ∈ pieces, Spells piece.2 piece.1) :
      Spells ('[' :: [','].intercalate (pieces.map Prod.snd) ++ [']'])
        (.array (pieces.map Prod.fst))
  | noMembers {cs : List Char} (blanks : Blanks cs) :
      Spells ('\x7b' :: cs ++ ['\x7d']) (.object [])
  | members {pieces : List Member} (nonempty : pieces ≠ [])
      (labels : ∀ piece ∈ pieces, Label piece.label piece.name)
      (all : ∀ piece ∈ pieces, Spells piece.content piece.value) :
      Spells ('\x7b' :: [','].intercalate (pieces.map Member.chars) ++ ['\x7d'])
        (.object (pieces.map fun piece => (piece.name, piece.value)))
  | blanks {before cs after : List Char} {json : Json} (front : Blanks before)
      (inner : Spells cs json) (back : Blanks after) : Spells (before ++ cs ++ after) json

end DocQuery.Json
