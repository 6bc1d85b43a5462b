import DocQuery.Text.Letters

/-!
# Small letters

The names of hosts are compared in small letters, of whatever script they are. Capital letters
become small ones character by character, with two exceptions: a dotted capital I becomes an i with
a dot above it, and a capital sigma has a form of its own at the end of a word.
-/

namespace DocQuery.Text

def inRanges (ranges : List (Nat × Nat)) (c : Char) : Bool :=
  ranges.any fun range => range.1 ≤ c.toNat && c.toNat ≤ range.2

/-- The small letter of a run for a character of it. -/
def LetterRun.small? (run : LetterRun) (c : Char) : Option Char :=
  if run.first ≤ c.toNat ∧ c.toNat ≤ run.last ∧ (c.toNat - run.first) % run.step = 0 then
    some (.ofNat (run.small + (c.toNat - run.first)))
  else none

/-- The small letter of a character, which is the character itself if it is no capital letter. -/
def lowerChar (c : Char) : Char :=
  (letterRuns.findSome? fun run => run.small? c).getD c

example : ['A', 'z', 'É', 'Ÿ', 'Δ', 'ß'].map lowerChar = ['a', 'z', 'é', 'ÿ', 'δ', 'ß'] := by
  decide +kernel

/-- Whether a text goes on with a letter, seen from a place in it. Accents and the like are passed
over. -/
def meetsLetter (cs : List Char) : Bool :=
  ((cs.dropWhile (inRanges caseIgnorableRanges)).head?.map (inRanges casedRanges)).getD false

/-- The characters in small letters, behind others that are given in reverse. A sigma ends a word if
there is a letter in front of it and none behind it. -/
def lowerAfter : List Char → List Char → List Char
  | _, [] => []
  | before, 'İ' :: rest => 'i' :: '\u0307' :: lowerAfter ('İ' :: before) rest
  | before, 'Σ' :: rest =>
    (if meetsLetter before && !meetsLetter rest then 'ς' else 'σ') ::
      lowerAfter ('Σ' :: before) rest
  | before, c :: rest => lowerChar c :: lowerAfter (c :: before) rest

def lower (s : String) : String :=
  String.ofList (lowerAfter [] s.toList)

example : lower "ΟΔΟΣ ΣΑΣ'Α" = "οδος σασ'α" := by decide +kernel

end DocQuery.Text
