import DocQuery.Text.Blank
import Mathlib.Data.List.DropRight
import Mathlib.Data.List.TakeWhile

/-!
# What trimming leaves

Trimming takes away blank characters only, and only at the ends: every other character is still
there, and nothing remains exactly if there was nothing but blanks. What remains has no blanks at
its ends, so that trimming it again changes nothing.
-/

namespace DocQuery.Text

private theorem mem_dropWhile_of_not {p : Char → Bool} {c : Char} (kept : p c = false)
    {cs : List Char} : c ∈ cs.dropWhile p ↔ c ∈ cs := by
  constructor
  · intro member
    exact (List.dropWhile_sublist p).subset member
  · intro member
    rw [← List.takeWhile_append_dropWhile (p := p) (l := cs)] at member
    rcases List.mem_append.mp member with front | rest
    · have dropped := List.mem_takeWhile_imp front
      rw [kept] at dropped
      contradiction
    · exact rest

/-- Trimming keeps the characters that are not blank. -/
theorem mem_trimChars {c : Char} (visible : isBlank c = false) {cs : List Char} :
    c ∈ trimChars cs ↔ c ∈ cs := by
  rw [trimChars, List.mem_reverse, mem_dropWhile_of_not visible, List.mem_reverse,
    mem_dropWhile_of_not visible]

/-- Nothing remains of blanks, and something of everything else. -/
theorem trimChars_eq_nil_iff {cs : List Char} :
    trimChars cs = [] ↔ ∀ c ∈ cs, isBlank c = true := by
  constructor
  · intro nothing c member
    cases visible : isBlank c with
    | true => rfl
    | false =>
        have remains := (mem_trimChars visible).mpr member
        rw [nothing] at remains
        exact absurd remains List.not_mem_nil
  · intro blank
    have dropped : cs.dropWhile isBlank = [] := List.dropWhile_eq_nil_iff.mpr blank
    rw [trimChars, dropped]
    rfl

theorem trim_eq_empty_iff {s : String} : trim s = "" ↔ ∀ c ∈ s.toList, isBlank c = true := by
  rw [← trimChars_eq_nil_iff, ← toList_trim]
  exact String.toList_eq_nil_iff.symm

/-- What trimming leaves has no blanks at its ends. -/
@[simp] theorem trimChars_trimChars (cs : List Char) : trimChars (trimChars cs) = trimChars cs := by
  have cut : trimChars cs = (cs.dropWhile isBlank).rdropWhile isBlank := rfl
  apply trimChars_eq_self
  · intro c first
    have front := List.head?_dropWhile_not isBlank cs
    obtain ⟨rest, whole⟩ := List.rdropWhile_prefix isBlank (cs.dropWhile isBlank)
    rw [← cut] at whole
    rw [← whole, List.head?_append, Option.mem_def.mp first] at front
    exact front
  · intro c last
    obtain ⟨nonempty, rfl⟩ := List.mem_getLast?_eq_getLast last
    exact Bool.eq_false_iff.mpr (List.rdropWhile_last_not isBlank _ nonempty)

@[simp] theorem trim_trim (s : String) : trim (trim s) = trim s := by
  rw [trim, toList_trim, trimChars_trimChars]
  rfl

private theorem rdropWhile_append {p : Char → Bool} {front : List Char}
    (kept : ∀ c ∈ front, p c = false) (rest : List Char) :
    (front ++ rest).rdropWhile p = front ++ rest.rdropWhile p := by
  induction rest using List.reverseRecOn with
  | nil =>
      rw [List.append_nil, List.rdropWhile_nil, List.append_nil, List.rdropWhile_eq_self_iff]
      intro nonempty
      simp [kept _ (List.getLast_mem nonempty)]
  | append_singleton rest c ih =>
      rw [← List.append_assoc, List.rdropWhile_concat, List.rdropWhile_concat, ih]
      split
      · rfl
      · rw [List.append_assoc]

/-- Behind something without blanks, trimming takes away from the end only. -/
theorem trimChars_append {front : List Char} (visible : ∀ c ∈ front, isBlank c = false)
    (nonempty : front ≠ []) (rest : List Char) :
    trimChars (front ++ rest) = front ++ rest.rdropWhile isBlank := by
  obtain ⟨first, others, rfl⟩ := List.exists_cons_of_ne_nil nonempty
  have starts : ((first :: others) ++ rest).dropWhile isBlank = (first :: others) ++ rest :=
    List.dropWhile_cons_of_neg (by simp [visible first List.mem_cons_self])
  rw [trimChars, starts]
  exact rdropWhile_append visible rest

theorem isBlank_of_isDigit {c : Char} (digit : c.isDigit = true) : isBlank c = false := by
  have bounds : 48 ≤ c.toNat ∧ c.toNat ≤ 57 := by
    rw [Char.isDigit, Bool.and_eq_true, decide_eq_true_iff, decide_eq_true_iff] at digit
    exact digit
  cases blank : isBlank c with
  | false => rfl
  | true =>
      obtain ⟨range, member, inside⟩ : ∃ range ∈ blankRanges,
          range.1 ≤ c.toNat ∧ c.toNat ≤ range.2 := by
        simpa [isBlank, List.any_eq_true] using blank
      have apart : ∀ range ∈ blankRanges, range.2 < 48 ∨ 57 < range.1 := by decide
      have outside := apart range member
      omega

end DocQuery.Text
