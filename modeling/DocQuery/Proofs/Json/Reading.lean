import DocQuery.Proofs.Json.Grammar
import DocQuery.Proofs.Text.Numerals
import Mathlib.Data.List.DropRight

/-!
# Spellings that are read

The reader accepts every spelling of a tree, at any depth, and reads this tree from it.

A number is the one kind of value whose end is not marked, so each value is read in front of
something that does not go on with it. The reader leaves the blanks behind a value where they are.
It is given fuel in proportion to the characters, which is enough for any text.
-/

namespace DocQuery.Json

open Grammar

namespace Parser

/-! ## Reading literals -/

theorem units_cons {c : Char} (visible : 0x20 ≤ c.toNat) (mark : c ≠ '"') (solidus : c ≠ '\\')
    (rest : List Char) :
    units (c :: rest) = (units rest).map fun read => (c.toNat :: read.1, read.2) := by
  rw [units]
  · have small : ¬ c.toNat < 0x20 := by omega
    simp [small, solidus]
  · exact mark
  · intro a b c' d rest' same
    exact absurd same solidus
  · intro c' rest' same
    exact absurd same solidus

theorem units_short {c d : Char} (short : shortEscape? c = some d) (rest : List Char) :
    units ('\\' :: c :: rest) = (units rest).map fun read => (d.toNat :: read.1, read.2) := by
  rw [units, short]
  · cases units rest <;> rfl
  · rintro a b c' e rest' rfl
    contradiction

theorem units_long {a b c d : Char} {n : Nat} (stands : codeUnit? a b c d = some n)
    (rest : List Char) :
    units ('\\' :: 'u' :: a :: b :: c :: d :: rest) =
      (units rest).map fun read => (n :: read.1, read.2) := by
  rw [units, stands]
  cases units rest <;> rfl

theorem units_append {cs : List Char} {us : List Nat} (spelled : Units cs us) (rest : List Char) :
    units (cs ++ '"' :: rest) = some (us, rest) := by
  induction spelled with
  | nil => rfl
  | plain visible mark solidus _ ih =>
      rw [List.cons_append, units_cons visible mark solidus, ih]
      rfl
  | short stands _ ih =>
      rw [List.cons_append, List.cons_append, units_short stands, ih]
      rfl
  | long stands _ ih =>
      simp only [List.cons_append]
      rw [units_long stands, ih]
      rfl

/-- A literal begins with its mark, and its text is read behind it. -/
theorem exists_literal {cs : List Char} {text : Option String} (spelled : Literal cs text) :
    ∃ inner, cs = '"' :: inner ∧
      ∀ rest, literal (inner ++ rest) = some (text, rest) := by
  obtain ⟨units⟩ := spelled
  rename_i cs us
  refine ⟨cs ++ ['"'], rfl, fun rest => ?_⟩
  rw [List.append_assoc, literal]
  exact congrArg _ (units_append units rest)

/-! ## Reading numerals -/

/-- What stands behind a value does not go on with it if the value is a number. -/
def Ends (rest : List Char) : Prop :=
  ∀ c ∈ rest.head?, c.isDigit = false ∧ c ≠ '.' ∧ c ≠ 'e' ∧ c ≠ 'E'

theorem ends_nil : Ends [] := by
  intro c member
  contradiction

theorem ends_cons {c : Char} (rest : List Char)
    (ends : c.isDigit = false ∧ c ≠ '.' ∧ c ≠ 'e' ∧ c ≠ 'E') : Ends (c :: rest) := by
  rintro d member
  obtain rfl := Option.some.inj member
  exact ends

theorem span_digits_append {digits rest : List Char} (ascii : Digits digits)
    (ends : ∀ c ∈ rest.head?, c.isDigit = false) :
    (digits ++ rest).takeWhile Char.isDigit = digits ∧
      (digits ++ rest).dropWhile Char.isDigit = rest :=
  Text.Numeral.span_isDigit ascii.2 ends

theorem isWhole_of_leading {digits : List Char} (ascii : Digits digits)
    (leading : digits = ['0'] ∨ digits.head? ≠ some '0') : isWhole digits = true := by
  rcases leading with zero | other
  · simp [isWhole, zero]
  · simp [isWhole, other, ascii.1]

theorem sign_append {before digits : List Char} (signed : before = [] ∨ before = ['-'])
    (ascii : Digits digits) (rest : List Char) :
    sign (before ++ (digits ++ rest)) = (before, digits ++ rest) := by
  rcases signed with rfl | rfl
  · obtain ⟨c, cs, rfl⟩ := List.exists_cons_of_ne_nil ascii.1
    have digit := ascii.2 c List.mem_cons_self
    simp only [List.nil_append, List.cons_append]
    rw [sign]
    rintro after same
    obtain rfl := List.head_eq_of_cons_eq same
    contradiction
  · rfl

theorem fraction_append {part : List Char} (fractional : Fraction part) {rest : List Char}
    (ends : ∀ c ∈ rest.head?, c.isDigit = false ∧ c ≠ '.') :
    fraction (part ++ rest) = some (part, rest) := by
  cases fractional with
  | none =>
      rw [List.nil_append, fraction]
      rintro after rfl
      exact (ends '.' rfl).2 rfl
  | some ascii =>
      obtain ⟨taken, left⟩ := span_digits_append ascii fun c first => (ends c first).1
      rw [List.cons_append, fraction, taken, left, if_neg ascii.1]

theorem exponentSign_append {before digits : List Char}
    (signed : before = [] ∨ before = ['+'] ∨ before = ['-']) (ascii : Digits digits)
    (rest : List Char) :
    exponentSign (before ++ (digits ++ rest)) = (before, digits ++ rest) := by
  rcases signed with rfl | rfl | rfl
  · obtain ⟨c, cs, rfl⟩ := List.exists_cons_of_ne_nil ascii.1
    have digit := ascii.2 c List.mem_cons_self
    simp only [List.nil_append, List.cons_append]
    rw [exponentSign] <;>
    · rintro after same
      obtain rfl := List.head_eq_of_cons_eq same
      contradiction
  · rfl
  · rfl

theorem exponent_of_ends {rest : List Char} (ends : Ends rest) :
    exponent rest = some ([], rest) := by
  cases rest with
  | nil => rfl
  | cons c rest =>
      obtain ⟨-, -, small, large⟩ := ends c rfl
      simp [exponent, small, large]

theorem exponent_append {part : List Char} (scaled : Exponent part) {rest : List Char}
    (ends : Ends rest) : exponent (part ++ rest) = some (part, rest) := by
  cases scaled with
  | none => exact exponent_of_ends ends
  | @some mark before digits marked signed ascii =>
      obtain ⟨taken, left⟩ := span_digits_append ascii fun c first => (ends c first).1
      have letter : (decide (mark = 'e') || decide (mark = 'E')) = true := by
        simpa using marked
      simp only [List.cons_append, List.append_assoc]
      rw [exponent, if_pos letter, exponentSign_append signed ascii]
      simp only [taken, left, if_neg ascii.1, List.cons_append]

/-- A numeral is read as what its parts say. -/
theorem number_append {before whole part scale : List Char}
    (numeral : Numeral before whole part scale) {rest : List Char} (ends : Ends rest) :
    number (before ++ whole ++ part ++ scale ++ rest) =
      some (ofParts before whole part scale, rest) := by
  have behind : ∀ c ∈ (scale ++ rest).head?, c.isDigit = false ∧ c ≠ '.' := by
    cases numeral.scaled with
    | none => exact fun c first => ⟨(ends c first).1, (ends c first).2.1⟩
    | some marked _ _ =>
        rintro c ⟨⟩
        rcases marked with rfl | rfl <;> exact ⟨rfl, by decide⟩
  have beyond : ∀ c ∈ (part ++ (scale ++ rest)).head?, c.isDigit = false := by
    cases numeral.fractional with
    | none => exact fun c first => (behind c first).1
    | some _ =>
        rintro c ⟨⟩
        rfl
  obtain ⟨taken, left⟩ := span_digits_append numeral.ascii beyond
  have whole' : (guard (isWhole whole = true) : Option Unit) = some () :=
    if_pos (isWhole_of_leading numeral.ascii numeral.leading)
  simp only [List.append_assoc]
  rw [number, sign_append numeral.signed numeral.ascii]
  dsimp only
  rw [taken, left, whole', fraction_append numeral.fractional behind]
  simp only [Option.bind_eq_bind, Option.bind_some, exponent_append numeral.scaled ends,
    Option.pure_def]

/-! ## Reading values -/

section

attribute [local simp] value items members member

theorem skipBlanks_cons {c : Char} (visible : isBlank c = false) (cs : List Char) :
    skipBlanks (c :: cs) = c :: cs := by
  simp [skipBlanks, visible]

theorem skipBlanks_append {before : List Char} (blanks : Blanks before) (cs : List Char) :
    skipBlanks (before ++ cs) = skipBlanks cs :=
  List.dropWhile_append_of_pos blanks

theorem isBlank_of_isDigit {c : Char} (digit : c.isDigit = true) : isBlank c = false := by
  simp only [isBlank, Bool.or_eq_false_iff, decide_eq_false_iff_not]
  refine ⟨⟨⟨?_, ?_⟩, ?_⟩, ?_⟩ <;> rintro rfl <;> contradiction

/-- Blanks do not go on with a value. -/
theorem ends_append {after rest : List Char} (blanks : Blanks after) (ends : Ends rest) :
    Ends (after ++ rest) := by
  cases after with
  | nil => exact ends
  | cons c after =>
      have blank := blanks c List.mem_cons_self
      apply ends_cons
      refine ⟨?_, ?_, ?_, ?_⟩
      · cases digit : c.isDigit with
        | false => rfl
        | true =>
            rw [isBlank_of_isDigit digit] at blank
            contradiction
      all_goals
        rintro rfl
        contradiction

/-- Blanks in front of a value are passed over. -/
theorem value_of_skipBlanks {cs ds : List Char} (same : skipBlanks cs = skipBlanks ds)
    (fuel : Nat) : value fuel cs = value fuel ds := by
  cases fuel with
  | zero => rfl
  | succ fuel => simp [same]

theorem items_of_skipBlanks {cs ds : List Char} (same : skipBlanks cs = skipBlanks ds)
    (fuel : Nat) : items fuel cs = items fuel ds := by
  cases fuel with
  | zero => rfl
  | succ fuel => simp [value_of_skipBlanks same]

theorem members_of_skipBlanks {cs ds : List Char} (same : skipBlanks cs = skipBlanks ds)
    (fuel : Nat) : members fuel cs = members fuel ds := by
  rcases fuel with _ | _ | fuel
  · rfl
  · rfl
  · simp [same]

theorem skipBlanks_skipBlanks (cs : List Char) : skipBlanks (skipBlanks cs) = skipBlanks cs :=
  List.dropWhile_idempotent isBlank cs

/-- What begins like a number is read as a number. -/
theorem value_number {c : Char} (start : c = '-' ∨ c.isDigit = true) (fuel : Nat)
    (cs : List Char) : value (fuel + 1) (c :: cs) = number (c :: cs) := by
  have visible : isBlank c = false := by
    rcases start with rfl | digit
    · decide
    · exact isBlank_of_isDigit digit
  have other : c ≠ '\x7b' ∧ c ≠ '[' ∧ c ≠ '"' ∧ c ≠ 't' ∧ c ≠ 'f' ∧ c ≠ 'n' := by
    rcases start with rfl | digit
    · decide
    · refine ⟨?_, ?_, ?_, ?_, ?_, ?_⟩ <;> rintro rfl <;> contradiction
  rw [value, skipBlanks_cons visible]
  split <;> simp_all

theorem value_quoted {inner cs rest : List Char} {text : Option String}
    (read : literal (inner ++ cs) = some (text, rest)) (fuel : Nat) :
    value (fuel + 1) ('"' :: inner ++ cs) = some (.string text, rest) := by
  rw [List.cons_append, value, skipBlanks_cons (by decide)]
  change (literal (inner ++ cs)).map _ = _
  rw [read, Option.map_some]

/-- A numeral begins with a sign or a digit. -/
theorem exists_numeral {before whole part scale : List Char}
    (numeral : Numeral before whole part scale) :
    ∃ c cs, before ++ whole ++ part ++ scale = c :: cs ∧ (c = '-' ∨ c.isDigit = true) := by
  rcases numeral.signed with rfl | rfl
  · obtain ⟨c, cs, rfl⟩ := List.exists_cons_of_ne_nil numeral.ascii.1
    exact ⟨c, _, rfl, .inr (numeral.ascii.2 c List.mem_cons_self)⟩
  · exact ⟨'-', _, rfl, .inl rfl⟩

theorem value_noItems {cs : List Char} (blanks : Blanks cs) (fuel : Nat) (rest : List Char) :
    value (fuel + 1) ('[' :: cs ++ [']'] ++ rest) = some (.array [], rest) := by
  have closed : skipBlanks (cs ++ ']' :: rest) = ']' :: rest := by
    rw [skipBlanks_append blanks, skipBlanks_cons (by decide)]
  simp [closed, skipBlanks_cons, isBlank]

theorem value_noMembers {cs : List Char} (blanks : Blanks cs) (fuel : Nat) (rest : List Char) :
    value (fuel + 1) ('\x7b' :: cs ++ ['\x7d'] ++ rest) = some (.object [], rest) := by
  have closed : skipBlanks (cs ++ '\x7d' :: rest) = '\x7d' :: rest := by
    rw [skipBlanks_append blanks, skipBlanks_cons (by decide)]
  simp [closed, skipBlanks_cons, isBlank]

/-- What is read as some items does not begin with the end of the array. -/
theorem items_of_end {cs ds : List Char} (closed : skipBlanks cs = ']' :: ds) (fuel : Nat) :
    items fuel cs = none := by
  rcases fuel with _ | _ | fuel
  · rfl
  · rfl
  · rw [items, value, closed]
    rfl

/-- What is read as some members does not begin with the end of the object. -/
theorem members_of_end {cs ds : List Char} (closed : skipBlanks cs = '\x7d' :: ds) (fuel : Nat) :
    members fuel cs = none := by
  rcases fuel with _ | _ | fuel
  · rfl
  · rfl
  · simp [closed]

theorem value_array {fuel : Nat} {cs rest : List Char} {read : List Json}
    (found : items fuel cs = some (read, rest)) :
    value (fuel + 1) ('[' :: cs) = some (.array read, rest) := by
  rw [value, skipBlanks_cons (by decide)]
  simp only
  split
  · rename_i closed
    rw [items_of_end closed] at found
    contradiction
  · rw [items_of_skipBlanks (skipBlanks_skipBlanks cs), found, Option.map_some]

theorem value_object {fuel : Nat} {cs rest : List Char} {read : List (Option String × Json)}
    (found : members fuel cs = some (read, rest)) :
    value (fuel + 1) ('\x7b' :: cs) = some (.object read, rest) := by
  rw [value, skipBlanks_cons (by decide)]
  simp only
  split
  · rename_i closed
    rw [members_of_end closed] at found
    contradiction
  · rw [members_of_skipBlanks (skipBlanks_skipBlanks cs), found, Option.map_some]

theorem items_last {fuel : Nat} {cs left rest : List Char} {item : Json}
    (read : value fuel cs = some (item, left)) (closed : skipBlanks left = ']' :: rest) :
    items (fuel + 1) cs = some ([item], rest) := by
  simp [read, closed]

theorem items_more {fuel : Nat} {cs left ds rest : List Char} {item : Json} {later : List Json}
    (read : value fuel cs = some (item, left)) (comma : skipBlanks left = ',' :: ds)
    (more : items fuel ds = some (later, rest)) :
    items (fuel + 1) cs = some (item :: later, rest) := by
  simp [read, comma, more]

theorem members_last {fuel : Nat} {cs left rest : List Char} {entry : Option String × Json}
    (read : member fuel cs = some (entry, left)) (closed : skipBlanks left = '\x7d' :: rest) :
    members (fuel + 1) cs = some ([entry], rest) := by
  simp [read, closed]

theorem members_more {fuel : Nat} {cs left ds rest : List Char} {entry : Option String × Json}
    {later : List (Option String × Json)} (read : member fuel cs = some (entry, left))
    (comma : skipBlanks left = ',' :: ds) (more : members fuel ds = some (later, rest)) :
    members (fuel + 1) cs = some (entry :: later, rest) := by
  simp [read, comma, more]

theorem member_label {fuel : Nat} {label cs left : List Char} {name : Option String}
    {content : Json} (spelled : Label label name) (read : value fuel cs = some (content, left)) :
    member (fuel + 1) (label ++ ':' :: cs) = some ((name, content), left) := by
  obtain ⟨front, quoted, back⟩ := spelled
  rename_i before mark after
  obtain ⟨inner, rfl, named⟩ := exists_literal quoted
  have start : skipBlanks (before ++ '"' :: inner ++ after ++ ':' :: cs) =
      '"' :: (inner ++ (after ++ ':' :: cs)) := by
    rw [List.append_assoc, List.append_assoc, skipBlanks_append front, List.cons_append,
      skipBlanks_cons (by decide)]
  have colon : skipBlanks (after ++ ':' :: cs) = ':' :: cs := by
    rw [skipBlanks_append back, skipBlanks_cons (by decide)]
  rw [member, start]
  simp [named, colon, read]

end

/-- A text is read as a tree, whatever stands behind it, and blanks may be left. Three units of fuel
for a character are enough. -/
def Reads (cs : List Char) (json : Json) : Prop :=
  ∀ fuel rest, 3 * cs.length ≤ fuel → Ends rest →
    ∃ left, value fuel (cs ++ rest) = some (json, left) ∧ skipBlanks left = skipBlanks rest

/-- Whatever has characters is given fuel. -/
theorem Reads.of_succ {cs : List Char} {json : Json} (nonempty : cs ≠ [])
    (read : ∀ fuel rest, 3 * cs.length ≤ fuel + 1 → Ends rest →
      value (fuel + 1) (cs ++ rest) = some (json, rest)) : Reads cs json := by
  rintro (_ | fuel) rest enough ends
  · have positive := List.length_pos_iff.mpr nonempty
    omega
  · exact ⟨rest, read fuel rest enough ends, rfl⟩

theorem items_intercalate {first : Json × List Char} {later : List (Json × List Char)}
    (all : ∀ piece ∈ first :: later, Reads piece.2 piece.1) {fuel : Nat} (rest : List Char)
    (enough : 3 * (([','].intercalate ((first :: later).map Prod.snd)).length + 1) ≤ fuel) :
    items fuel ([','].intercalate ((first :: later).map Prod.snd) ++ ']' :: rest) =
      some ((first :: later).map Prod.fst, rest) := by
  have read := all first List.mem_cons_self
  obtain ⟨fuel, rfl⟩ : ∃ f, fuel = f + 1 := ⟨fuel - 1, by omega⟩
  induction later generalizing first fuel with
  | nil =>
      simp only [List.map_cons, List.map_nil, List.intercalate_singleton] at enough ⊢
      obtain ⟨left, found, same⟩ :=
        read fuel (']' :: rest) (by omega) (ends_cons rest (by decide))
      exact items_last found same
  | cons next later ih =>
      simp only [List.map_cons, List.intercalate_cons_cons, List.append_assoc, List.cons_append,
        List.nil_append, List.length_append, List.length_cons] at enough ⊢
      obtain ⟨fuel, rfl⟩ : ∃ f, fuel = f + 1 := ⟨fuel - 1, by omega⟩
      have inside : ∀ piece ∈ next :: later, Reads piece.2 piece.1 :=
        fun piece member => all piece (List.mem_cons_of_mem first member)
      have more := ih inside (inside next List.mem_cons_self) fuel (by simpa using by omega)
      obtain ⟨left, found, same⟩ :=
        read (fuel + 1) _ (by omega) (ends_cons (c := ',') _ (by decide))
      exact items_more found same more

theorem members_intercalate {first : Member} {later : List Member}
    (labels : ∀ piece ∈ first :: later, Label piece.label piece.name)
    (all : ∀ piece ∈ first :: later, Reads piece.content piece.value) {fuel : Nat}
    (rest : List Char)
    (enough : 3 * (([','].intercalate ((first :: later).map Member.chars)).length + 1) ≤ fuel) :
    members fuel ([','].intercalate ((first :: later).map Member.chars) ++ '\x7d' :: rest) =
      some ((first :: later).map fun piece => (piece.name, piece.value), rest) := by
  have label := labels first List.mem_cons_self
  have read := all first List.mem_cons_self
  obtain ⟨fuel, rfl⟩ : ∃ f, fuel = f + 2 := ⟨fuel - 2, by omega⟩
  induction later generalizing first fuel with
  | nil =>
      simp only [List.map_cons, List.map_nil, List.intercalate_singleton,
        Member.chars, List.length_append, List.length_cons, List.append_assoc,
        List.cons_append] at enough ⊢
      obtain ⟨left, found, same⟩ :=
        read fuel ('\x7d' :: rest) (by omega) (ends_cons rest (by decide))
      exact members_last (member_label label found) same
  | cons next later ih =>
      simp only [List.map_cons, List.intercalate_cons_cons, List.append_assoc, List.cons_append,
        List.nil_append, List.length_append, List.length_cons,
        Member.chars] at enough ⊢
      have inside : ∀ piece ∈ next :: later, Reads piece.content piece.value :=
        fun piece member => all piece (List.mem_cons_of_mem first member)
      have labelled : ∀ piece ∈ next :: later, Label piece.label piece.name :=
        fun piece member => labels piece (List.mem_cons_of_mem first member)
      obtain ⟨fuel, rfl⟩ : ∃ f, fuel = f + 1 := ⟨fuel - 1, by omega⟩
      have more := ih labelled inside (labelled next List.mem_cons_self)
        (inside next List.mem_cons_self) fuel (by simpa [Member.chars] using by omega)
      obtain ⟨left, found, same⟩ :=
        read (fuel + 1) _ (by omega) (ends_cons (c := ',') _ (by decide))
      exact members_more (member_label label found) same more

/-- Every spelling of a tree is read as that tree. -/
theorem reads_of_spells {cs : List Char} {json : Json} (spelled : Spells cs json) :
    Reads cs json := by
  induction spelled with
  | null => exact .of_succ nofun fun _ _ _ _ => rfl
  | yes => exact .of_succ nofun fun _ _ _ _ => rfl
  | no => exact .of_succ nofun fun _ _ _ _ => rfl
  | number numeral =>
      obtain ⟨c, cs, written, start⟩ := exists_numeral numeral
      refine .of_succ (written ▸ List.cons_ne_nil c cs) fun fuel rest _ ends => ?_
      have read := number_append numeral ends
      rw [written, List.cons_append] at read ⊢
      exact (value_number start fuel _).trans read
  | string spelled =>
      obtain ⟨inner, rfl, read⟩ := exists_literal spelled
      exact .of_succ nofun fun fuel rest _ _ => value_quoted (read rest) fuel
  | noItems blanks => exact .of_succ nofun fun fuel rest _ _ => value_noItems blanks fuel rest
  | @items pieces nonempty _ ih =>
      obtain ⟨first, later, rfl⟩ := List.exists_cons_of_ne_nil nonempty
      refine .of_succ nofun fun fuel rest enough _ => ?_
      simp only [List.cons_append, List.length_cons, List.length_append, List.append_assoc,
        List.nil_append] at enough ⊢
      exact value_array (items_intercalate ih rest (by omega))
  | noMembers blanks => exact .of_succ nofun fun fuel rest _ _ => value_noMembers blanks fuel rest
  | @members pieces nonempty labels _ ih =>
      obtain ⟨first, later, rfl⟩ := List.exists_cons_of_ne_nil nonempty
      refine .of_succ nofun fun fuel rest enough _ => ?_
      simp only [List.cons_append, List.length_cons, List.length_append, List.append_assoc,
        List.nil_append] at enough ⊢
      exact value_object (members_intercalate labels ih rest (by omega))
  | @blanks before cs after json front _ back ih =>
      intro fuel rest enough ends
      simp only [List.length_append] at enough
      obtain ⟨left, read, same⟩ := ih fuel (after ++ rest) (by omega) (ends_append back ends)
      refine ⟨left, ?_, same.trans (skipBlanks_append back rest)⟩
      simp only [List.append_assoc]
      rw [value_of_skipBlanks (skipBlanks_append front _), read]

end Parser

/-- A text that spells a tree is read as that tree. -/
theorem parse_of_spells {s : String} {json : Json} (spelled : Spells s.toList json) :
    parse s = some json := by
  obtain ⟨left, read, same⟩ :=
    Parser.reads_of_spells spelled (3 * s.toList.length + 3) [] (by omega) Parser.ends_nil
  rw [List.append_nil] at read
  rw [parse, read]
  exact if_pos same

end DocQuery.Json
