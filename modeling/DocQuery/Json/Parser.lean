import DocQuery.Json.Basic
import DocQuery.Text.Numeral

/-!
# Reading JSON text

The grammar of JSON without any leniency: no trailing text, no leading zeros, no raw control
characters in strings, and only blanks, tabs and line ends between tokens. A literal is read as code
units first; the halves of surrogate pairs among them are joined afterwards.
-/

namespace DocQuery.Json.Parser

/-- The characters that may stand between tokens. -/
def isBlank (c : Char) : Bool :=
  c = ' ' || c = '\t' || c = '\n' || c = '\r'

def skipBlanks (cs : List Char) : List Char :=
  cs.dropWhile isBlank

def hexDigit? (c : Char) : Option Nat :=
  if '0' ≤ c ∧ c ≤ '9' then some (c.toNat - 48)
  else if 'a' ≤ c ∧ c ≤ 'f' then some (c.toNat - 87)
  else if 'A' ≤ c ∧ c ≤ 'F' then some (c.toNat - 55)
  else none

/-- The code unit that four hexadecimal digits denote. -/
def codeUnit? (a b c d : Char) : Option Nat := do
  return 4096 * (← hexDigit? a) + 256 * (← hexDigit? b) + 16 * (← hexDigit? c) + (← hexDigit? d)

/-- The character that a reverse solidus and one more character stand for. -/
def shortEscape? : Char → Option Char
  | '"' => some '"'
  | '\\' => some '\\'
  | '/' => some '/'
  | 'b' => some '\x08'
  | 'f' => some '\x0c'
  | 'n' => some '\n'
  | 'r' => some '\r'
  | 't' => some '\t'
  | _ => none

/-- Reads a string literal behind its opening mark: the code units up to the closing mark, and the
rest. -/
def units : List Char → Option (List Nat × List Char)
  | [] => none
  | '"' :: rest => some ([], rest)
  | '\\' :: 'u' :: a :: b :: c :: d :: rest =>
    match codeUnit? a b c d, units rest with
    | some unit, some (us, rest) => some (unit :: us, rest)
    | _, _ => none
  | '\\' :: c :: rest =>
    match shortEscape? c, units rest with
    | some c, some (us, rest) => some (c.toNat :: us, rest)
    | _, _ => none
  | c :: rest =>
    if c.toNat < 0x20 || c = '\\' then none
    else (units rest).map fun (us, rest) => (c.toNat :: us, rest)

/-- Joins the halves of surrogate pairs. A half without its partner has no character. -/
def join : List Nat → Option (List Char)
  | [] => some []
  | [unit] => if 0xD800 ≤ unit ∧ unit < 0xE000 then none else some [Char.ofNat unit]
  | unit :: low :: rest =>
    if 0xD800 ≤ unit ∧ unit < 0xDC00 then
      if 0xDC00 ≤ low ∧ low < 0xE000 then
        (join rest).map (Char.ofNat (0x10000 + (unit - 0xD800) * 1024 + (low - 0xDC00)) :: ·)
      else none
    else if 0xDC00 ≤ unit ∧ unit < 0xE000 then none
    else (join (low :: rest)).map (Char.ofNat unit :: ·)

/-- Reads a string literal behind its opening mark. -/
def literal (cs : List Char) : Option (Option String × List Char) :=
  (units cs).map fun (us, rest) => ((join us).map String.ofList, rest)

/-- Reads the digits of a fraction, if there is a point. -/
def fraction : List Char → Option (List Char × List Char)
  | '.' :: rest =>
    if rest.takeWhile Char.isDigit = [] then none
    else some ('.' :: rest.takeWhile Char.isDigit, rest.dropWhile Char.isDigit)
  | rest => some ([], rest)

def exponentSign : List Char → List Char × List Char
  | '+' :: rest => (['+'], rest)
  | '-' :: rest => (['-'], rest)
  | rest => ([], rest)

/-- Reads an exponent, if there is its mark. -/
def exponent : List Char → Option (List Char × List Char)
  | [] => some ([], [])
  | c :: rest =>
    if c = 'e' || c = 'E' then
      let (sign, rest) := exponentSign rest
      if rest.takeWhile Char.isDigit = [] then none
      else some (c :: sign ++ rest.takeWhile Char.isDigit, rest.dropWhile Char.isDigit)
    else some ([], c :: rest)

def sign : List Char → List Char × List Char
  | '-' :: rest => (['-'], rest)
  | rest => ([], rest)

def isWhole (digits : List Char) : Bool :=
  digits = ['0'] || (digits ≠ [] && digits.head? ≠ some '0')

def ofParts (sign whole fraction exponent : List Char) : Json :=
  if fraction = [] ∧ exponent = [] ∧ ¬ (sign ≠ [] ∧ whole = ['0']) then
    let n : Nat := Nat.ofDigitChars 10 whole 0
    .int (if sign = [] then n else -n)
  else .real (String.ofList (sign ++ whole ++ fraction ++ exponent))

def number (cs : List Char) : Option (Json × List Char) := do
  let (sign, rest) := sign cs
  let whole := rest.takeWhile Char.isDigit
  guard (isWhole whole)
  let (fraction, rest) ← fraction (rest.dropWhile Char.isDigit)
  let (exponent, rest) ← exponent rest
  return (ofParts sign whole fraction exponent, rest)

mutual

/-- Reads a value. The number bounds how deep and how far the reader goes. -/
def value : Nat → List Char → Option (Json × List Char)
  | 0, _ => none
  | fuel + 1, cs =>
    match skipBlanks cs with
    | '\x7b' :: rest =>
      match skipBlanks rest with
      | '\x7d' :: rest => some (.object [], rest)
      | rest => (members fuel rest).map fun (members, rest) => (.object members, rest)
    | '[' :: rest =>
      match skipBlanks rest with
      | ']' :: rest => some (.array [], rest)
      | rest => (items fuel rest).map fun (items, rest) => (.array items, rest)
    | '"' :: rest => (literal rest).map fun (text, rest) => (.string text, rest)
    | 't' :: 'r' :: 'u' :: 'e' :: rest => some (.bool true, rest)
    | 'f' :: 'a' :: 'l' :: 's' :: 'e' :: rest => some (.bool false, rest)
    | 'n' :: 'u' :: 'l' :: 'l' :: rest => some (.null, rest)
    | rest => number rest

/-- Reads the items of an array that has some, up to its end. -/
def items : Nat → List Char → Option (List Json × List Char)
  | 0, _ => none
  | fuel + 1, cs =>
    match value fuel cs with
    | none => none
    | some (item, rest) =>
      match skipBlanks rest with
      | ']' :: rest => some ([item], rest)
      | ',' :: rest => (items fuel rest).map fun (items, rest) => (item :: items, rest)
      | _ => none

/-- Reads the members of an object that has some, up to its end. -/
def members : Nat → List Char → Option (List (Option String × Json) × List Char)
  | 0, _ => none
  | fuel + 1, cs =>
    match member fuel cs with
    | none => none
    | some (member, rest) =>
      match skipBlanks rest with
      | '\x7d' :: rest => some ([member], rest)
      | ',' :: rest => (members fuel rest).map fun (members, rest) => (member :: members, rest)
      | _ => none

/-- Reads a name, a colon and a value. -/
def member : Nat → List Char → Option ((Option String × Json) × List Char)
  | 0, _ => none
  | fuel + 1, cs =>
    match skipBlanks cs with
    | '"' :: rest =>
      match literal rest with
      | none => none
      | some (name, rest) =>
        match skipBlanks rest with
        | ':' :: rest => (value fuel rest).map fun (value, rest) => ((name, value), rest)
        | _ => none
    | _ => none

end

end DocQuery.Json.Parser

namespace DocQuery.Json

/-- The tree that a text says. Every call of the reader but one in three takes a character, so the
bound is never what stops it. -/
def parse (s : String) : Option Json :=
  match Parser.value (3 * s.toList.length + 3) s.toList with
  | some (json, rest) => if Parser.skipBlanks rest = [] then some json else none
  | none => none

end DocQuery.Json
