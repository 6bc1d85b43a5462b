import DocQuery.Fault
import DocQuery.Text.Blank
import DocQuery.Text.Numeral

/-!
# Server versions

Of a server's version the first two numbers matter: they decide whether the server can count rows by
a stage of its own. A version is read from the digits that its first two parts start with; whatever
follows them, patch numbers and suffixes, is passed over.
-/

namespace DocQuery

structure ServerVersion where
  major : UInt32
  minor : UInt32
deriving DecidableEq, Repr

namespace ServerVersion

/-- The major number decides, and the minor one between equal major numbers. -/
instance : Ord ServerVersion where
  compare a b := (compare a.major b.major).then (compare a.minor b.minor)

/-- The first version that has a stage for counting. -/
def firstCounting : ServerVersion := ⟨3, 4⟩

/-- The version that is assumed where none is known. -/
instance : Inhabited ServerVersion := ⟨firstCounting⟩

def hasCountStage (version : ServerVersion) : Bool :=
  (compare version firstCounting).isGE

def text (version : ServerVersion) : String :=
  Text.Numeral.ofNat version.major.toNat ++ "." ++ Text.Numeral.ofNat version.minor.toNat

/-- The number that the leading digits of a part denote. -/
def number? (part : List Char) : Option UInt32 :=
  (Text.Numeral.bounded? (UInt32.size - 1) (part.takeWhile Char.isDigit)).map .ofNat

/-- The parts of a text between dots, without the blanks around the text. -/
def parts (s : String) : List (List Char) :=
  (Text.trimChars s.toList).splitOn '.'

/-- Reads a version. A missing second part counts as zero. -/
def parse (s : String) : Except Fault ServerVersion :=
  let part (index : Nat) (what : String) : Except Fault UInt32 :=
    match number? ((parts s)[index]?.getD ['0']) with
    | some n => .ok n
    | none => .error (.config ("invalid " ++ what ++ " version in '" ++ s ++ "'"))
  do return ⟨← part 0 "major", ← part 1 "minor"⟩

end ServerVersion

end DocQuery
