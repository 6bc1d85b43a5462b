import DocQuery.Json.Printer
import DocQuery.Proofs.Json.Grammar
import DocQuery.Proofs.Text.Numerals

/-!
# Literals of strings and numbers

What is written for a text is a literal of this text, whatever characters it has: each of them
stands inside the literal for its own code unit, escaped or not, and none is half of a surrogate
pair. What is written for an integer is a numeral of it.
-/

namespace DocQuery

namespace Text.Numeral

/-- A positive number has no leading zero. -/
theorem head?_digits_ne {n : Nat} (positive : 0 < n) : (digits n).head? ≠ some '0' := by
  induction n using Nat.strongRecOn with
  | ind n ih =>
      rw [digits]
      by_cases small : n < 10
      · rw [Nat.toDigits_of_lt_base small]
        have each : ∀ n < 10, 0 < n → [Nat.digitChar n].head? ≠ some '0' := by decide
        exact each n small positive
      · rw [Nat.toDigits_of_base_le (by decide) (by omega)]
        have shorter := ih (n / 10) (by omega) (by omega)
        have nonempty := digits_ne_nil (n / 10)
        rw [digits] at shorter nonempty
        cases written : Nat.toDigits 10 (n / 10) with
        | nil => exact absurd written nonempty
        | cons c cs => rwa [written] at shorter

end Text.Numeral

namespace Json

open Grammar DocQuery.Json.Parser Text.Numeral

/-! ## String literals -/

theorem hexDigit?_digitChar {n : Nat} (small : n < 16) : hexDigit? (Nat.digitChar n) = some n := by
  have each : ∀ n < 16, hexDigit? (Nat.digitChar n) = some n := by decide
  exact each n small

/-- A character stands inside a literal for its own code unit. -/
theorem units_escape (c : Char) {cs : List Char} {us : List Nat} (more : Units cs us) :
    Units (escape c ++ cs) (c.toNat :: us) := by
  unfold escape
  split
  case h_8 mark solidus _ _ _ _ _ =>
    split
    · rename_i control
      have unit : codeUnit? '0' '0' (Nat.digitChar (c.toNat / 16)) (Nat.digitChar (c.toNat % 16)) =
          some c.toNat := by
        have zero : hexDigit? '0' = some 0 := rfl
        have high := hexDigit?_digitChar (n := c.toNat / 16) (by omega)
        have low := hexDigit?_digitChar (n := c.toNat % 16) (by omega)
        simp only [codeUnit?, zero, high, low, Option.bind_eq_bind, Option.bind_some,
          Option.pure_def]
        congr 1
        omega
      exact .long unit more
    · rename_i visible
      exact .plain (by omega) mark solidus more
  all_goals exact .short rfl more

theorem units_flatMap_escape (cs : List Char) : Units (cs.flatMap escape) (cs.map Char.toNat) := by
  induction cs with
  | nil => exact .nil
  | cons c cs ih => exact units_escape c ih

/-- No character is half of a surrogate pair. -/
theorem not_surrogate (c : Char) : ¬ (0xD800 ≤ c.toNat ∧ c.toNat < 0xE000) := by
  rintro ⟨low, high⟩
  have valid : c.toNat < 0xD800 ∨ 0xDFFF < c.toNat ∧ c.toNat < 0x110000 := c.valid
  omega

theorem join_map_toNat (cs : List Char) : join (cs.map Char.toNat) = some cs := by
  induction cs with
  | nil => rfl
  | cons c cs ih =>
    have whole := not_surrogate c
    cases cs with
    | nil => rw [List.map_cons, List.map_nil, join, if_neg whole, Char.ofNat_toNat]
    | cons d cs =>
      rw [List.map_cons] at ih
      rw [List.map_cons, List.map_cons, join, if_neg (by omega), if_neg (by omega), ih,
        Char.ofNat_toNat]
      rfl

/-- A text has the literal that is written for it. -/
theorem literal_quoted (s : String) : Literal (quoted (some s)) (some s) := by
  have texts : (join (s.toList.map Char.toNat)).map String.ofList = some s := by
    rw [join_map_toNat, Option.map_some, String.ofList_toList]
  have spelled := Literal.intro (units_flatMap_escape s.toList)
  rwa [texts] at spelled

/-! ## Numbers -/

theorem ofParts_digits (n : Nat) : ofParts [] (digits n) [] [] = .int n := by
  simp [ofParts, ofDigitChars_digits]

theorem ofParts_negative {n : Nat} (positive : 0 < n) :
    ofParts ['-'] (digits n) [] [] = .int (-n) := by
  have nonzero : digits n ≠ ['0'] := by
    intro zero
    have first := head?_digits_ne positive
    rw [zero] at first
    exact first rfl
  simp [ofParts, ofDigitChars_digits, nonzero]

theorem numeral_digits {before : List Char} (signed : before = [] ∨ before = ['-']) (n : Nat) :
    Numeral before (digits n) [] [] where
  signed := signed
  ascii := ⟨digits_ne_nil n, fun _ => isDigit_of_mem_digits⟩
  leading := by
    rcases Nat.eq_zero_or_pos n with rfl | positive
    · exact .inl rfl
    · exact .inr (head?_digits_ne positive)
  fractional := .none
  scaled := .none

/-- An integer is spelled by what is written for it. -/
theorem spells_intChars (n : Int) : Spells (intChars n) (.int n) := by
  by_cases negative : n < 0
  · have magnitude : -(n.natAbs : Int) = n := by omega
    have spelled := Spells.number (numeral_digits (.inr rfl) n.natAbs)
    rw [ofParts_negative (by omega), magnitude] at spelled
    simpa [intChars, negative] using spelled
  · have magnitude : (n.natAbs : Int) = n := by omega
    have spelled := Spells.number (numeral_digits (.inl rfl) n.natAbs)
    rw [ofParts_digits, magnitude] at spelled
    simpa [intChars, negative] using spelled

end Json

end DocQuery
