/-!
# Decimal numerals

Numbers are written in base ten without leading zeros. They are read from ASCII digits only: the
digits of other scripts, underscores and blanks are refused.
-/

namespace DocQuery.Text.Numeral

def digits (n : Nat) : List Char :=
  Nat.toDigits 10 n

def ofNat (n : Nat) : String :=
  String.ofList (digits n)

/-- The characters of an integer: its digits, after a minus sign if it is negative. -/
def intChars (n : Int) : List Char :=
  if n < 0 then '-' :: digits n.natAbs else digits n.natAbs

def ofInt (n : Int) : String :=
  String.ofList (intChars n)

/-- The digits of a natural number, filled up with zeros on the left to the given width. -/
def padded (width n : Nat) : List Char :=
  List.replicate (width - (digits n).length) '0' ++ digits n

/-- The number that a non-empty list of ASCII digits denotes. Leading zeros are welcome. -/
def value? (cs : List Char) : Option Nat :=
  if cs ≠ [] ∧ cs.all Char.isDigit then some (Nat.ofDigitChars 10 cs 0) else none

/-- The number that a list of ASCII digits denotes, if it is at most `bound`. -/
def bounded? (bound : Nat) (cs : List Char) : Option Nat :=
  (value? cs).filter (· ≤ bound)

/-- A numeral up to `bound` that may carry one plus sign. -/
def unsigned? (bound : Nat) : List Char → Option Nat
  | '+' :: cs => bounded? bound cs
  | cs => bounded? bound cs

theorem digits_ne_nil (n : Nat) : digits n ≠ [] := by
  simp [digits]

theorem all_isDigit_digits (n : Nat) : (digits n).all Char.isDigit := by
  simpa [digits, List.all_eq_true] using
    fun c h => Nat.isDigit_of_mem_toDigits (by decide) (by decide) h

/-- Reading the digits of a number gives the number back. -/
@[simp] theorem value?_digits (n : Nat) : value? (digits n) = some n := by
  rw [value?, if_pos ⟨digits_ne_nil n, all_isDigit_digits n⟩, digits,
    Nat.ofDigitChars_toDigits (by decide) (by decide)]

end DocQuery.Text.Numeral
