import DocQuery.Proofs.Json.Grammar

/-!
# What stands outside of the literals

In a spelling of a tree some marks stand inside of string literals only: an opening parenthesis is
one of them. Going through the text one sees where the literals begin and end, and at its end one is
outside of them again. Whoever begins inside of a literal where in truth there is none takes every
inside for an outside, and does not end outside.

So a text that holds a parenthesis and a spelling behind it is taken apart in one way only, whatever
stands in front of the parenthesis.
-/

namespace DocQuery.Json.Quotes

open Grammar

/-- Where in a text one is: outside of the string literals, inside of one, or inside of one and
behind a reverse solidus. -/
inductive Place where
  | outside
  | inside
  | escaped
deriving DecidableEq

/-- Where one is behind a character. Outside of the literals there are no parentheses that open and
no reverse solidi. -/
def next : Place → Char → Option Place
  | .outside, c =>
    if c = '"' then some .inside else if c = '(' ∨ c = '\\' then none else some .outside
  | .inside, c =>
    if c = '"' then some .outside else if c = '\\' then some .escaped else some .inside
  | .escaped, _ => some .inside

def walk (place : Place) (cs : List Char) : Option Place :=
  cs.foldlM next place

theorem walk_cons (place : Place) (c : Char) (cs : List Char) :
    walk place (c :: cs) = (next place c).bind (walk · cs) := by
  rw [walk, List.foldlM_cons]
  rfl

theorem walk_append (place : Place) (cs ds : List Char) :
    walk place (cs ++ ds) = (walk place cs).bind (walk · ds) := by
  rw [walk, List.foldlM_append]
  rfl

/-- A text that begins and ends outside of the literals. -/
def Closed (cs : List Char) : Prop :=
  walk .outside cs = some .outside

theorem Closed.append {cs ds : List Char} (first : Closed cs) (second : Closed ds) :
    Closed (cs ++ ds) := by
  rw [Closed, walk_append, first, Option.bind_some, second]

theorem Closed.cons {c : Char} {cs : List Char} (plain : c ≠ '"' ∧ c ≠ '(' ∧ c ≠ '\\')
    (closed : Closed cs) : Closed (c :: cs) := by
  rw [Closed, walk_cons]
  simp only [next, plain, or_self, if_false, Option.bind_some]
  exact closed

theorem closed_of_forall {cs : List Char} (all : ∀ c ∈ cs, c ≠ '"' ∧ c ≠ '(' ∧ c ≠ '\\') :
    Closed cs := by
  induction cs with
  | nil => rfl
  | cons c cs ih =>
      obtain ⟨plain, all⟩ := List.forall_mem_cons.mp all
      exact .cons plain (ih all)

theorem closed_intercalate {pieces : List (List Char)} (all : ∀ piece ∈ pieces, Closed piece) :
    Closed ([','].intercalate pieces) := by
  induction pieces with
  | nil => rfl
  | cons first later ih =>
      obtain ⟨closed, all⟩ := List.forall_mem_cons.mp all
      cases later with
      | nil => rwa [List.intercalate_singleton]
      | cons second later =>
          rw [List.intercalate_cons_cons]
          exact .append (.append closed rfl) (ih all)

/-! ## Spellings are closed -/

theorem not_mark_of_hexDigit? {c : Char} {n : Nat} (digit : Parser.hexDigit? c = some n) :
    c ≠ '"' ∧ c ≠ '\\' := by
  constructor <;>
  · rintro rfl
    contradiction

theorem walk_units {cs : List Char} {us : List Nat} (units : Units cs us) (rest : List Char) :
    walk .inside (cs ++ rest) = walk .inside rest := by
  induction units with
  | nil => rfl
  | plain _ mark solidus _ ih => simp [walk_cons, next, mark, solidus, ih]
  | short _ _ ih => simp [walk_cons, next, ih]
  | long stands _ ih =>
      simp only [Parser.codeUnit?, Option.bind_eq_bind, Option.bind_eq_some_iff] at stands
      obtain ⟨_, first, _, second, _, third, _, fourth, -⟩ := stands
      simp [walk_cons, next, not_mark_of_hexDigit? first, not_mark_of_hexDigit? second,
        not_mark_of_hexDigit? third, not_mark_of_hexDigit? fourth, ih]

theorem closed_literal {cs : List Char} {text : Option String} (literal : Literal cs text) :
    Closed cs := by
  obtain ⟨units⟩ := literal
  rw [Closed, List.cons_append, walk_cons]
  exact walk_units units ['"']

theorem closed_blanks {cs : List Char} (blanks : Blanks cs) : Closed cs := by
  refine closed_of_forall fun c member => ?_
  have blank := blanks c member
  refine ⟨?_, ?_, ?_⟩ <;>
  · rintro rfl
    contradiction

theorem closed_digits {cs : List Char} (digits : Digits cs) : Closed cs := by
  refine closed_of_forall fun c member => ?_
  have digit := digits.2 c member
  refine ⟨?_, ?_, ?_⟩ <;>
  · rintro rfl
    contradiction

theorem closed_label {cs : List Char} {name : Option String} (label : Label cs name) :
    Closed cs := by
  obtain ⟨front, literal, back⟩ := label
  exact ((closed_blanks front).append (closed_literal literal)).append (closed_blanks back)

theorem closed_numeral {before whole part scale : List Char}
    (numeral : Numeral before whole part scale) : Closed (before ++ whole ++ part ++ scale) := by
  obtain ⟨signed, ascii, -, fractional, scaled⟩ := numeral
  refine .append (.append (.append ?_ (closed_digits ascii)) ?_) ?_
  · rcases signed with rfl | rfl <;> rfl
  · cases fractional with
    | none => rfl
    | some ascii => exact .cons (by decide) (closed_digits ascii)
  · cases scaled with
    | none => rfl
    | some marked signed ascii =>
        refine .append (.cons ?_ ?_) (closed_digits ascii)
        · rcases marked with rfl | rfl <;> decide
        · rcases signed with rfl | rfl | rfl <;> rfl

/-- A spelling of a tree begins and ends outside of the literals, and the parentheses in it stand
inside of them. -/
theorem closed_of_spells {cs : List Char} {json : Json} (spelled : Spells cs json) :
    Closed cs := by
  induction spelled with
  | null => rfl
  | yes => rfl
  | no => rfl
  | number numeral => exact closed_numeral numeral
  | string literal => exact closed_literal literal
  | noItems blanks => exact .append (.cons (by decide) (closed_blanks blanks)) rfl
  | items _ _ ih =>
      exact .append (.cons (by decide) (closed_intercalate (List.forall_mem_map.mpr ih))) rfl
  | noMembers blanks => exact .append (.cons (by decide) (closed_blanks blanks)) rfl
  | members _ labels _ ih =>
      refine .append (.cons (by decide)
        (closed_intercalate (List.forall_mem_map.mpr fun piece member => ?_))) rfl
      exact (closed_label (labels piece member)).append (.cons (by decide) (ih piece member))
  | blanks front _ back ih => exact ((closed_blanks front).append ih).append (closed_blanks back)

/-! ## Taking a text apart -/

/-- Who begins outside and who begins inside are never at the same place. -/
theorem walk_apart {cs : List Char} {a b : Place} (first : walk .outside cs = some a)
    (second : walk .inside cs = some b) :
    a = .outside ∧ b = .inside ∨ a = .inside ∧ b = .outside := by
  induction cs generalizing a b with
  | nil => exact .inl ⟨(Option.some.inj first).symm, (Option.some.inj second).symm⟩
  | cons c cs ih =>
      rw [walk_cons] at first second
      by_cases quote : c = '"'
      · simp only [next, if_pos quote, Option.bind_some] at first second
        exact (ih second first).symm.imp And.symm And.symm
      · by_cases mark : c = '(' ∨ c = '\\'
        · simp [next, quote, mark] at first
        · have solidus : c ≠ '\\' := fun same => mark (.inr same)
          simp only [next, if_neg quote, if_neg mark, if_neg solidus, Option.bind_some]
            at first second
          exact ih first second

/-- A closed text has no closed text behind a parenthesis in it. -/
theorem not_closed_append {before after : List Char} (closed : Closed after) :
    ¬ Closed (before ++ '(' :: after) := by
  intro whole
  rw [Closed, walk_append] at whole
  obtain ⟨place, -, whole⟩ := Option.bind_eq_some_iff.mp whole
  have other : walk .inside after = some .outside := by
    cases place with
    | outside => contradiction
    | inside => exact whole
    | escaped => exact whole
  rcases walk_apart closed other with ⟨-, same⟩ | ⟨same, -⟩ <;> contradiction

/-- A text is taken apart at a parenthesis with a closed text behind it in one way only. -/
theorem append_paren_inj {before before' after after' : List Char} (closed : Closed after)
    (closed' : Closed after') (same : before ++ '(' :: after = before' ++ '(' :: after') :
    before = before' ∧ after = after' := by
  rcases List.append_eq_append_iff.mp same with ⟨gap, rfl, rest⟩ | ⟨gap, rfl, rest⟩
  · cases gap with
    | nil => exact ⟨(List.append_nil before).symm, List.tail_eq_of_cons_eq rest⟩
    | cons c gap =>
        rw [List.tail_eq_of_cons_eq rest] at closed
        exact absurd closed (not_closed_append closed')
  · cases gap with
    | nil => exact ⟨List.append_nil before', (List.tail_eq_of_cons_eq rest).symm⟩
    | cons c gap =>
        rw [List.tail_eq_of_cons_eq rest] at closed'
        exact absurd closed' (not_closed_append closed)

end DocQuery.Json.Quotes
