import DocQuery.Proofs.Json.Reading
import Mathlib.Data.Option.Basic

/-!
# Texts that are accepted

The reader accepts nothing but spellings. Each of its parts takes from the front of a text what the
grammar allows there, so a text that is read as a tree is one of the spellings of this tree. The
grammar and the reader say the same.
-/

namespace DocQuery.Json

open Grammar

namespace Parser

theorem exists_blanks (cs : List Char) :
    ∃ before, cs = before ++ skipBlanks cs ∧ Blanks before :=
  ⟨cs.takeWhile isBlank, List.takeWhile_append_dropWhile.symm,
    fun _ => List.mem_takeWhile_imp⟩

/-! ## Literals and numerals -/

theorem units_accepted {cs rest : List Char} {us : List Nat} (read : units cs = some (us, rest)) :
    ∃ inner, cs = inner ++ '"' :: rest ∧ Units inner us := by
  fun_induction units cs generalizing us rest with
  | case1 => contradiction
  | case2 after =>
      obtain ⟨rfl, rfl⟩ := Prod.mk.inj (Option.some.inj read)
      exact ⟨[], rfl, .nil⟩
  | case3 a b c d after n us' left found stands ih =>
      obtain ⟨rfl, rfl⟩ := Prod.mk.inj (Option.some.inj read)
      obtain ⟨inner, rfl, units⟩ := ih found
      exact ⟨_, rfl, .long stands units⟩
  | case4 => contradiction
  | case5 c after _ d us' left found stands ih =>
      obtain ⟨rfl, rfl⟩ := Prod.mk.inj (Option.some.inj read)
      obtain ⟨inner, rfl, units⟩ := ih found
      exact ⟨_, rfl, .short stands units⟩
  | case6 => contradiction
  | case7 => contradiction
  | case8 c after mark _ _ plain ih =>
      obtain ⟨⟨us', left⟩, found, same⟩ := Option.map_eq_some_iff.mp read
      obtain ⟨rfl, rfl⟩ := Prod.mk.inj same
      obtain ⟨inner, rfl, units⟩ := ih found
      simp at plain
      exact ⟨_, rfl, .plain (by omega) mark plain.2 units⟩

theorem literal_accepted {cs rest : List Char} {text : Option String}
    (read : literal cs = some (text, rest)) :
    ∃ inner, cs = inner ++ '"' :: rest ∧ Literal ('"' :: inner ++ ['"']) text := by
  obtain ⟨⟨us, left⟩, found, same⟩ := Option.map_eq_some_iff.mp read
  obtain ⟨rfl, rfl⟩ := Prod.mk.inj same
  obtain ⟨inner, rfl, units⟩ := units_accepted found
  exact ⟨inner, rfl, .intro units⟩

theorem digits_takeWhile {cs : List Char} (nonempty : cs.takeWhile Char.isDigit ≠ []) :
    Digits (cs.takeWhile Char.isDigit) :=
  ⟨nonempty, fun _ => List.mem_takeWhile_imp⟩

theorem sign_accepted (cs : List Char) :
    cs = (sign cs).1 ++ (sign cs).2 ∧ ((sign cs).1 = [] ∨ (sign cs).1 = ['-']) := by
  fun_cases sign cs with
  | case1 => exact ⟨rfl, .inr rfl⟩
  | case2 => exact ⟨rfl, .inl rfl⟩

theorem exponentSign_accepted (cs : List Char) :
    cs = (exponentSign cs).1 ++ (exponentSign cs).2 ∧ ((exponentSign cs).1 = [] ∨
      (exponentSign cs).1 = ['+'] ∨ (exponentSign cs).1 = ['-']) := by
  fun_cases exponentSign cs with
  | case1 => exact ⟨rfl, .inr (.inl rfl)⟩
  | case2 => exact ⟨rfl, .inr (.inr rfl)⟩
  | case3 => exact ⟨rfl, .inl rfl⟩

theorem fraction_accepted {cs part rest : List Char} (read : fraction cs = some (part, rest)) :
    cs = part ++ rest ∧ Fraction part := by
  revert read
  fun_cases fraction cs with
  | case1 => nofun
  | case2 after nonempty =>
      rintro ⟨⟩
      exact ⟨congrArg _ List.takeWhile_append_dropWhile.symm, .some (digits_takeWhile nonempty)⟩
  | case3 =>
      rintro ⟨⟩
      exact ⟨rfl, .none⟩

theorem exponent_accepted {cs part rest : List Char} (read : exponent cs = some (part, rest)) :
    cs = part ++ rest ∧ Exponent part := by
  revert read
  fun_cases exponent cs with
  | case1 =>
      rintro ⟨⟩
      exact ⟨rfl, .none⟩
  | case2 => nofun
  | case3 c after marked before left split nonempty =>
      rintro ⟨⟩
      obtain ⟨whole, signed⟩ := exponentSign_accepted after
      rw [split] at whole signed
      refine ⟨?_, .some (by simpa using marked) signed (digits_takeWhile nonempty)⟩
      rw [List.cons_append, List.cons_append, List.append_assoc,
        List.takeWhile_append_dropWhile, ← whole]
  | case4 =>
      rintro ⟨⟩
      exact ⟨rfl, .none⟩

theorem leading_of_isWhole {cs : List Char} (whole : isWhole cs = true) :
    cs ≠ [] ∧ (cs = ['0'] ∨ cs.head? ≠ some '0') := by
  simp only [isWhole, Bool.or_eq_true, Bool.and_eq_true, decide_eq_true_eq] at whole
  rcases whole with rfl | ⟨nonempty, leading⟩
  · exact ⟨by simp, .inl rfl⟩
  · exact ⟨nonempty, .inr leading⟩

theorem number_accepted {cs rest : List Char} {json : Json}
    (read : number cs = some (json, rest)) :
    ∃ before, cs = before ++ rest ∧ Spells before json := by
  obtain ⟨whole, signed⟩ := sign_accepted cs
  simp only [number, Option.bind_eq_bind, Option.bind_eq_some_iff, Option.guard_eq_some',
    Option.pure_def, Option.some.injEq, Prod.mk.injEq] at read
  obtain ⟨-, leading, ⟨part, left⟩, point, ⟨scale, after⟩, mark, rfl, rfl⟩ := read
  obtain ⟨nonempty, leading⟩ := leading_of_isWhole leading
  obtain ⟨split, fractional⟩ := fraction_accepted point
  obtain ⟨rfl, scaled⟩ := exponent_accepted mark
  refine ⟨_, ?_, .number ⟨signed, digits_takeWhile nonempty, leading, fractional, scaled⟩⟩
  simp only [List.append_assoc, ← split]
  rw [List.takeWhile_append_dropWhile, ← whole]

/-! ## Values -/

/-- A spelling of a tree is taken from the front of a text. -/
def Takes (cs : List Char) (json : Json) (left : List Char) : Prop :=
  ∃ before, cs = before ++ left ∧ Spells before json

/-- Some items and the end of their array are taken from the front of a text. -/
def TakesItems (cs : List Char) (read : List Json) (left : List Char) : Prop :=
  ∃ pieces : List (Json × List Char), pieces ≠ [] ∧ read = pieces.map Prod.fst ∧
    (∀ piece ∈ pieces, Spells piece.2 piece.1) ∧
    cs = [','].intercalate (pieces.map Prod.snd) ++ ']' :: left

/-- A member is taken from the front of a text. -/
def TakesMember (cs : List Char) (read : Option String × Json) (left : List Char) : Prop :=
  ∃ piece : Member, read = (piece.name, piece.value) ∧ Label piece.label piece.name ∧
    Spells piece.content piece.value ∧ cs = piece.chars ++ left

/-- Some members and the end of their object are taken from the front of a text. -/
def TakesMembers (cs : List Char) (read : List (Option String × Json)) (left : List Char) : Prop :=
  ∃ pieces : List Member, pieces ≠ [] ∧
    read = pieces.map (fun piece => (piece.name, piece.value)) ∧
    (∀ piece ∈ pieces, Label piece.label piece.name) ∧
    (∀ piece ∈ pieces, Spells piece.content piece.value) ∧
    cs = [','].intercalate (pieces.map Member.chars) ++ '\x7d' :: left

theorem spells_append {body after : List Char} {json : Json} (inner : Spells body json)
    (blanks : Blanks after) : Spells (body ++ after) json := by
  have bare : Blanks [] := nofun
  exact .blanks bare inner blanks

section

variable {cs after left : List Char}

/-- Blanks in front of a spelling are taken with it. -/
theorem takes_of_skipBlanks {body : List Char} {json : Json}
    (front : skipBlanks cs = body ++ left) (inner : Spells body json) : Takes cs json left := by
  obtain ⟨before, whole, blanks⟩ := exists_blanks cs
  rw [front, ← List.append_assoc] at whole
  have bare : Blanks [] := nofun
  have spelled := Spells.blanks blanks inner bare
  rw [List.append_nil] at spelled
  exact ⟨before ++ body, whole, spelled⟩

/-- Blanks behind a spelling are taken with it. -/
theorem Takes.skipBlanks {json : Json} (taken : Takes cs json after)
    (behind : skipBlanks after = left) : Takes cs json left := by
  obtain ⟨before, rfl, inner⟩ := taken
  obtain ⟨gap, whole, blanks⟩ := exists_blanks after
  refine ⟨before ++ gap, ?_, spells_append inner blanks⟩
  rw [List.append_assoc, ← behind, ← whole]

theorem TakesMember.skipBlanks {entry : Option String × Json} (taken : TakesMember cs entry after)
    (behind : skipBlanks after = left) : TakesMember cs entry left := by
  obtain ⟨⟨name, value, label, content⟩, rfl, labelled, inner, rfl⟩ := taken
  obtain ⟨gap, whole, blanks⟩ := exists_blanks after
  refine ⟨⟨name, value, label, content ++ gap⟩, rfl, labelled, spells_append inner blanks, ?_⟩
  rw [Member.chars, Member.chars, List.append_assoc, List.append_assoc, List.cons_append,
    List.cons_append, List.append_assoc, ← behind, ← whole]

theorem Takes.last {item : Json} (taken : Takes cs item (']' :: left)) :
    TakesItems cs [item] left := by
  obtain ⟨before, rfl, inner⟩ := taken
  refine ⟨[(item, before)], by simp, rfl, ?_, ?_⟩
  · simpa using inner
  · simp

theorem Takes.more {item : Json} {later : List Json} (taken : Takes cs item (',' :: after))
    (more : TakesItems after later left) : TakesItems cs (item :: later) left := by
  obtain ⟨before, rfl, inner⟩ := taken
  obtain ⟨pieces, nonempty, rfl, all, rfl⟩ := more
  obtain ⟨next, pieces, rfl⟩ := List.exists_cons_of_ne_nil nonempty
  refine ⟨(item, before) :: next :: pieces, by simp, rfl, List.forall_mem_cons.mpr ⟨inner, all⟩, ?_⟩
  simp

theorem TakesMember.last {entry : Option String × Json}
    (taken : TakesMember cs entry ('\x7d' :: left)) : TakesMembers cs [entry] left := by
  obtain ⟨piece, rfl, labelled, inner, rfl⟩ := taken
  refine ⟨[piece], by simp, rfl, ?_, ?_, ?_⟩
  · simpa using labelled
  · simpa using inner
  · simp

theorem TakesMember.more {entry : Option String × Json} {later : List (Option String × Json)}
    (taken : TakesMember cs entry (',' :: after)) (more : TakesMembers after later left) :
    TakesMembers cs (entry :: later) left := by
  obtain ⟨piece, rfl, labelled, inner, rfl⟩ := taken
  obtain ⟨pieces, nonempty, rfl, labels, all, rfl⟩ := more
  obtain ⟨next, pieces, rfl⟩ := List.exists_cons_of_ne_nil nonempty
  refine ⟨piece :: next :: pieces, by simp, rfl, List.forall_mem_cons.mpr ⟨labelled, labels⟩,
    List.forall_mem_cons.mpr ⟨inner, all⟩, ?_⟩
  simp

end

/-- With this fuel the reader takes nothing but spellings. -/
structure Accepts (fuel : Nat) : Prop where
  value : ∀ {cs json left}, value fuel cs = some (json, left) → Takes cs json left
  items : ∀ {cs read left}, items fuel cs = some (read, left) → TakesItems cs read left
  members : ∀ {cs read left}, members fuel cs = some (read, left) → TakesMembers cs read left
  member : ∀ {cs read left}, member fuel cs = some (read, left) → TakesMember cs read left

section

variable {fuel : Nat} {cs left : List Char}

theorem value_accepted (ih : Accepts fuel) {json : Json}
    (read : value (fuel + 1) cs = some (json, left)) : Takes cs json left := by
  rw [value] at read
  split at read
  -- Blanks behind an opening bracket belong to what the first item or member takes, so they are
  -- given back to it.
  case h_1 rest front =>
    split at read
    · rename_i closed
      obtain ⟨rfl, rfl⟩ := Prod.mk.inj (Option.some.inj read)
      obtain ⟨gap, whole, blanks⟩ := exists_blanks rest
      refine takes_of_skipBlanks ?_ (.noMembers blanks)
      rw [front, whole, closed, List.append_assoc]
      rfl
    · rw [members_of_skipBlanks (skipBlanks_skipBlanks rest)] at read
      obtain ⟨⟨members, after⟩, found, same⟩ := Option.map_eq_some_iff.mp read
      obtain ⟨rfl, rfl⟩ := Prod.mk.inj same
      obtain ⟨pieces, nonempty, rfl, labels, all, rfl⟩ := ih.members found
      refine takes_of_skipBlanks ?_ (.members nonempty labels all)
      rw [front, List.append_assoc]
      rfl
  case h_2 rest front =>
    split at read
    · rename_i closed
      obtain ⟨rfl, rfl⟩ := Prod.mk.inj (Option.some.inj read)
      obtain ⟨gap, whole, blanks⟩ := exists_blanks rest
      refine takes_of_skipBlanks ?_ (.noItems blanks)
      rw [front, whole, closed, List.append_assoc]
      rfl
    · rw [items_of_skipBlanks (skipBlanks_skipBlanks rest)] at read
      obtain ⟨⟨items, after⟩, found, same⟩ := Option.map_eq_some_iff.mp read
      obtain ⟨rfl, rfl⟩ := Prod.mk.inj same
      obtain ⟨pieces, nonempty, rfl, all, rfl⟩ := ih.items found
      refine takes_of_skipBlanks ?_ (.items nonempty all)
      rw [front, List.append_assoc]
      rfl
  case h_3 rest front =>
    obtain ⟨⟨text, after⟩, found, same⟩ := Option.map_eq_some_iff.mp read
    obtain ⟨rfl, rfl⟩ := Prod.mk.inj same
    obtain ⟨inner, rfl, spelled⟩ := literal_accepted found
    refine takes_of_skipBlanks ?_ (.string spelled)
    rw [front, List.append_assoc]
    rfl
  case h_4 rest front =>
    obtain ⟨rfl, rfl⟩ := Prod.mk.inj (Option.some.inj read)
    exact takes_of_skipBlanks front .yes
  case h_5 rest front =>
    obtain ⟨rfl, rfl⟩ := Prod.mk.inj (Option.some.inj read)
    exact takes_of_skipBlanks front .no
  case h_6 rest front =>
    obtain ⟨rfl, rfl⟩ := Prod.mk.inj (Option.some.inj read)
    exact takes_of_skipBlanks front .null
  case h_7 =>
    obtain ⟨before, front, spelled⟩ := number_accepted read
    exact takes_of_skipBlanks front spelled

theorem items_accepted (ih : Accepts fuel) {read : List Json}
    (found : items (fuel + 1) cs = some (read, left)) : TakesItems cs read left := by
  rw [items] at found
  split at found
  · contradiction
  · rename_i item after first
    split at found
    · rename_i closed
      obtain ⟨rfl, rfl⟩ := Prod.mk.inj (Option.some.inj found)
      exact ((ih.value first).skipBlanks closed).last
    · rename_i comma
      obtain ⟨⟨later, rest⟩, more, same⟩ := Option.map_eq_some_iff.mp found
      obtain ⟨rfl, rfl⟩ := Prod.mk.inj same
      exact ((ih.value first).skipBlanks comma).more (ih.items more)
    · contradiction

theorem members_accepted (ih : Accepts fuel) {read : List (Option String × Json)}
    (found : members (fuel + 1) cs = some (read, left)) : TakesMembers cs read left := by
  rw [members] at found
  split at found
  · contradiction
  · rename_i entry after first
    split at found
    · rename_i closed
      obtain ⟨rfl, rfl⟩ := Prod.mk.inj (Option.some.inj found)
      exact ((ih.member first).skipBlanks closed).last
    · rename_i comma
      obtain ⟨⟨later, rest⟩, more, same⟩ := Option.map_eq_some_iff.mp found
      obtain ⟨rfl, rfl⟩ := Prod.mk.inj same
      exact ((ih.member first).skipBlanks comma).more (ih.members more)
    · contradiction

theorem member_accepted (ih : Accepts fuel) {entry : Option String × Json}
    (found : member (fuel + 1) cs = some (entry, left)) : TakesMember cs entry left := by
  rw [member] at found
  split at found
  · rename_i rest front
    split at found
    · contradiction
    · rename_i name after named
      split at found
      · rename_i rest' colon
        obtain ⟨⟨content, behind⟩, read, same⟩ := Option.map_eq_some_iff.mp found
        obtain ⟨rfl, rfl⟩ := Prod.mk.inj same
        obtain ⟨inner, rfl, literal⟩ := literal_accepted named
        obtain ⟨body, rfl, spelled⟩ := ih.value read
        obtain ⟨before, whole, blanks⟩ := exists_blanks cs
        obtain ⟨gap, between, others⟩ := exists_blanks after
        refine ⟨⟨name, content, _, body⟩, rfl, .intro blanks literal others, spelled, ?_⟩
        rw [Member.chars, whole, front, between, colon]
        simp
      · contradiction
  · contradiction

theorem accepts (fuel : Nat) : Accepts fuel := by
  induction fuel with
  | zero => exact ⟨nofun, nofun, nofun, nofun⟩
  | succ fuel ih =>
      exact ⟨value_accepted ih, items_accepted ih, members_accepted ih, member_accepted ih⟩

end

end Parser

/-- A text is read as a tree if and only if it spells this tree. -/
theorem parse_eq_some_iff {s : String} {json : Json} :
    parse s = some json ↔ Spells s.toList json := by
  refine ⟨fun read => ?_, parse_of_spells⟩
  rw [parse] at read
  split at read
  · rename_i found
    split at read
    · rename_i closed
      obtain rfl := Option.some.inj read
      obtain ⟨before, whole, spelled⟩ := ((Parser.accepts _).value found).skipBlanks closed
      rwa [whole, List.append_nil]
    · contradiction
  · contradiction

end DocQuery.Json
