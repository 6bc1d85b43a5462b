import DocQuery.Text.Numeral
import Mathlib.Algebra.Group.Nat.Defs
import Mathlib.Data.List.Basic

/-!
# What numerals tell apart

Numbers are told apart by their numerals, with a sign, without one or filled up with zeros. Where
several of them stand in one text, a mark that none of them holds tells where one ends.
-/

namespace DocQuery.Text

/-- The first of several marks is found from what stands in front of it. -/
theorem append_cons_inj {mark : Char} {a b rest rest' : List Char} (free : mark ∉ a)
    (free' : mark ∉ b) (same : a ++ mark :: rest = b ++ mark :: rest') : a = b ∧ rest = rest' := by
  have pieces := congrArg (List.splitOn mark) same
  rw [List.splitOn_append_cons_self_of_not_mem free,
    List.splitOn_append_cons_self_of_not_mem free'] at pieces
  obtain rfl : a = b := List.head_eq_of_cons_eq pieces
  exact ⟨rfl, List.tail_eq_of_cons_eq (List.append_cancel_left same)⟩

/-- The last of several marks is found from what stands behind it. -/
theorem append_cons_inj_of_right {mark : Char} {a b rest rest' : List Char} (free : mark ∉ rest)
    (free' : mark ∉ rest') (same : a ++ mark :: rest = b ++ mark :: rest') :
    a = b ∧ rest = rest' := by
  have reversed := congrArg List.reverse same
  simp only [List.reverse_append, List.reverse_cons, List.append_assoc, List.singleton_append]
    at reversed
  obtain ⟨behind, before⟩ :=
    append_cons_inj (List.mem_reverse.not.mpr free) (List.mem_reverse.not.mpr free') reversed
  exact ⟨List.reverse_inj.mp before, List.reverse_inj.mp behind⟩

namespace Numeral

theorem digits_inj {m n : Nat} : digits m = digits n ↔ m = n := by
  constructor
  · intro same
    have read := value?_digits m
    rw [same, value?_digits] at read
    exact (Option.some.inj read).symm
  · rintro rfl
    rfl

theorem isDigit_of_mem_digits {n : Nat} {c : Char} (member : c ∈ digits n) : c.isDigit = true :=
  List.all_eq_true.mp (all_isDigit_digits n) c member

/-- A mark that is no digit is in no numeral. -/
theorem not_mem_digits {mark : Char} (other : mark.isDigit = false) (n : Nat) :
    mark ∉ digits n := by
  intro member
  rw [isDigit_of_mem_digits member] at other
  contradiction

/-- Digits go on until something else begins. -/
theorem span_isDigit {cs rest : List Char} (ascii : ∀ c ∈ cs, c.isDigit = true)
    (ends : ∀ c ∈ rest.head?, c.isDigit = false) :
    (cs ++ rest).takeWhile Char.isDigit = cs ∧ (cs ++ rest).dropWhile Char.isDigit = rest := by
  rw [List.takeWhile_append_of_pos ascii, List.dropWhile_append_of_pos ascii]
  cases rest with
  | nil => exact ⟨List.append_nil cs, rfl⟩
  | cons c rest => simp [ends c rfl]

theorem ofDigitChars_digits (n : Nat) : Nat.ofDigitChars 10 (digits n) 0 = n :=
  Nat.ofDigitChars_toDigits (by decide) (by decide)

theorem not_mem_intChars {mark : Char} (other : mark.isDigit = false) (minus : mark ≠ '-')
    (n : Int) : mark ∉ intChars n := by
  unfold intChars
  split
  · exact List.not_mem_cons_of_ne_of_not_mem minus (not_mem_digits other _)
  · exact not_mem_digits other _

theorem intChars_inj {m n : Int} : intChars m = intChars n ↔ m = n := by
  constructor
  · intro same
    have unsigned : ∀ k rest, digits k ≠ '-' :: rest := by
      intro k rest signed
      have member : '-' ∈ digits k := signed ▸ List.mem_cons_self
      exact not_mem_digits rfl k member
    unfold intChars at same
    split at same <;> split at same
    · have size := digits_inj.mp (List.tail_eq_of_cons_eq same)
      omega
    · exact absurd same.symm (unsigned _ _)
    · exact absurd same (unsigned _ _)
    · have size := digits_inj.mp same
      omega
  · rintro rfl
    rfl

theorem ofInt_inj {m n : Int} : ofInt m = ofInt n ↔ m = n :=
  String.ofList_inj.trans intChars_inj

/-- Zeros in front of a number say nothing. -/
theorem ofDigitChars_padded (width n : Nat) : Nat.ofDigitChars 10 (padded width n) 0 = n := by
  rw [padded, Nat.ofDigitChars_append, Nat.ofDigitChars_replicate_zero, Nat.mul_zero,
    ofDigitChars_digits]

theorem padded_inj {width m n : Nat} : padded width m = padded width n ↔ m = n := by
  constructor
  · intro same
    rw [← ofDigitChars_padded width m, same, ofDigitChars_padded]
  · rintro rfl
    rfl

theorem not_mem_padded {mark : Char} (other : mark.isDigit = false) (width n : Nat) :
    mark ∉ padded width n := by
  rw [padded, List.mem_append]
  rintro (zero | digit)
  · rw [List.eq_of_mem_replicate zero] at other
    contradiction
  · exact not_mem_digits other n digit

theorem length_padded {width n : Nat} (positive : 0 < width) (fits : n < 10 ^ width) :
    (padded width n).length = width := by
  have short : (digits n).length ≤ width :=
    (Nat.length_toDigits_le_iff (by decide) positive).mpr fits
  rw [padded, List.length_append, List.length_replicate]
  omega

end Numeral

end DocQuery.Text
