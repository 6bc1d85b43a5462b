import DocQuery.Proofs.Text.Blank
import DocQuery.Proofs.Text.Numerals
import DocQuery.ServerVersion

/-!
# Texts of versions

Which texts are versions is said without the reader: of the pieces between dots the first one, and
the second one if there is one, begin with a number, and these two numbers are the version. A number
is made of all the digits that its piece begins with, and it has to fit 32 bits. Every other text is
refused, and the refusal says which of the two numbers is missing.

The text of a version is read as this version, whatever stands behind it, as long as that does not
go on with its last number.
-/

namespace DocQuery

/-- What is known to hold no dot stands in front of the first one, with more or less behind it. -/
theorem exists_splitOn_append {front : List Char} (undotted : '.' ∉ front) (rest : List Char) :
    ∃ piece pieces, (front ++ rest).splitOn '.' = (front ++ piece) :: pieces ∧ piece <+: rest := by
  by_cases dotted : '.' ∈ rest
  · obtain ⟨piece, after, rfl, free⟩ := List.eq_append_cons_of_mem dotted
    have apart : '.' ∉ front ++ piece := by
      rw [List.mem_append]
      exact not_or.mpr ⟨undotted, free⟩
    refine ⟨piece, after.splitOn '.', ?_, List.prefix_append piece _⟩
    rw [← List.append_assoc]
    exact List.splitOn_append_cons_self_of_not_mem apart after
  · have apart : '.' ∉ front ++ rest := by
      rw [List.mem_append]
      exact not_or.mpr ⟨undotted, dotted⟩
    exact ⟨rest, [], List.splitOn_eq_singleton apart, List.prefix_rfl⟩

namespace ServerVersion

/-- A piece of a text begins with the digits of a number, and with no more digits than these. -/
inductive Begins : List Char → UInt32 → Prop where
  | intro {digits rest : List Char} {n : UInt32} (nonempty : digits ≠ [])
      (ascii : ∀ c ∈ digits, c.isDigit = true) (maximal : ∀ c ∈ rest.head?, c.isDigit = false)
      (value : Nat.ofDigitChars 10 digits 0 = n.toNat) : Begins (digits ++ rest) n

/-- The version that the pieces of a text denote. Pieces behind the second one say nothing. -/
inductive Denotes : List (List Char) → ServerVersion → Prop where
  | major {piece : List Char} {major : UInt32} (begins : Begins piece major) :
      Denotes [piece] ⟨major, 0⟩
  | minor {first second : List Char} {rest : List (List Char)} {major minor : UInt32}
      (begins : Begins first major) (goesOn : Begins second minor) :
      Denotes (first :: second :: rest) ⟨major, minor⟩

/-- How a text is refused in which one of the two numbers is missing. -/
def refusal (what s : String) : Fault :=
  .config ("invalid " ++ what ++ " version in '" ++ s ++ "'")

theorem number?_eq_some_iff {piece : List Char} {n : UInt32} :
    number? piece = some n ↔ Begins piece n := by
  constructor
  · intro read
    obtain ⟨value, bounded, rfl⟩ := Option.map_eq_some_iff.mp read
    obtain ⟨denoted, small⟩ := Option.filter_eq_some_iff.mp bounded
    obtain ⟨⟨nonempty, ascii⟩, same⟩ := Option.ite_none_right_eq_some.mp denoted
    have fits : value < UInt32.size := Nat.lt_of_le_pred (by decide) (of_decide_eq_true small)
    have stops := List.head?_dropWhile_not Char.isDigit piece
    have whole := List.takeWhile_append_dropWhile (p := Char.isDigit) (l := piece)
    generalize piece.takeWhile Char.isDigit = digits at nonempty ascii same whole
    generalize piece.dropWhile Char.isDigit = rest at stops whole
    subst whole
    refine .intro nonempty (List.all_eq_true.mp ascii) ?_ ?_
    · intro c first
      rwa [Option.mem_def.mp first] at stops
    · rw [UInt32.toNat_ofNat_of_lt' fits]
      exact Option.some.inj same
  · rintro ⟨nonempty, ascii, maximal, value⟩
    have small : n.toNat ≤ UInt32.size - 1 := Nat.le_pred_of_lt n.toNat_lt
    rw [number?, (Text.Numeral.span_isDigit ascii maximal).1, Text.Numeral.bounded?, Text.Numeral.value?,
      if_pos ⟨nonempty, List.all_eq_true.mpr ascii⟩, value, Option.filter_some,
      if_pos (decide_eq_true small), Option.map_some, UInt32.ofNat_toNat]

/-- What reading a text comes to, by its first two pieces. -/
theorem parse_of_parts {s : String} {first : List Char} {rest : List (List Char)}
    (pieces : parts s = first :: rest) :
    parse s = match number? first, number? (rest.head?.getD ['0']) with
      | none, _ => .error (refusal "major" s)
      | some _, none => .error (refusal "minor" s)
      | some major, some minor => .ok ⟨major, minor⟩ := by
  have second : (first :: rest)[1]? = rest.head? := by cases rest <;> rfl
  simp only [parse, pieces, second, List.getElem?_cons_zero, Option.getD_some]
  cases number? first with
  | none => rfl
  | some major => cases number? (rest.head?.getD ['0']) <;> rfl

/-- A missing second piece is read like a zero. -/
theorem denotes_cons_iff {first : List Char} {rest : List (List Char)} {version : ServerVersion} :
    Denotes (first :: rest) version ↔
      number? first = some version.major ∧
        number? (rest.head?.getD ['0']) = some version.minor := by
  have zero : number? ['0'] = some 0 := by decide
  constructor
  · rintro (begins | ⟨begins, goesOn⟩)
    · exact ⟨number?_eq_some_iff.mpr begins, zero⟩
    · exact ⟨number?_eq_some_iff.mpr begins, number?_eq_some_iff.mpr goesOn⟩
  · obtain ⟨major, minor⟩ := version
    rintro ⟨begins, goesOn⟩
    cases rest with
    | nil =>
        obtain rfl : 0 = minor := Option.some.inj (zero.symm.trans goesOn)
        exact .major (number?_eq_some_iff.mp begins)
    | cons second rest =>
        exact .minor (number?_eq_some_iff.mp begins) (number?_eq_some_iff.mp goesOn)

theorem exists_parts_eq (s : String) : ∃ first rest, parts s = first :: rest :=
  List.exists_cons_of_ne_nil (List.splitOn_ne_nil '.' _)

theorem parse_eq_ok_iff {s : String} {version : ServerVersion} :
    parse s = .ok version ↔ Denotes (parts s) version := by
  obtain ⟨first, rest, pieces⟩ := exists_parts_eq s
  rw [parse_of_parts pieces, pieces, denotes_cons_iff]
  obtain ⟨major, minor⟩ := version
  cases number? first with
  | none => simp
  | some major' => cases number? (rest.head?.getD ['0']) <;> simp

/-- What is no version is refused. -/
theorem parse_of_not_denotes {s : String} (senseless : ∀ version, ¬ Denotes (parts s) version) :
    ∃ what ∈ ["major", "minor"], parse s = .error (refusal what s) := by
  obtain ⟨first, rest, pieces⟩ := exists_parts_eq s
  rw [pieces] at senseless
  rw [parse_of_parts pieces]
  cases begins : number? first with
  | none => exact ⟨"major", List.mem_cons_self, rfl⟩
  | some major =>
      cases goesOn : number? (rest.head?.getD ['0']) with
      | none => exact ⟨"minor", by simp, rfl⟩
      | some minor => exact absurd (denotes_cons_iff.mpr ⟨begins, goesOn⟩) (senseless ⟨major, minor⟩)

theorem begins_digits (n : UInt32) {rest : List Char} (ends : ∀ c ∈ rest.head?, c.isDigit = false) :
    Begins (Text.Numeral.digits n.toNat ++ rest) n :=
  .intro (Text.Numeral.digits_ne_nil _) (fun _ => Text.Numeral.isDigit_of_mem_digits) ends
    (Text.Numeral.ofDigitChars_digits _)

theorem isDigit_head?_of_start {piece whole : List Char} (start : piece <+: whole)
    (ends : ∀ c ∈ whole.head?, c.isDigit = false) : ∀ c ∈ piece.head?, c.isDigit = false := by
  obtain ⟨rest, rfl⟩ := start
  intro c first
  exact ends c (List.mem_head?_append_of_mem_head? first)

/-- The text of a version denotes it, with anything behind it that does not go on with its last
number. -/
theorem denotes_parts_text_append (version : ServerVersion) {suffix : String}
    (ends : ∀ c ∈ suffix.toList.head?, c.isDigit = false) :
    Denotes (parts (version.text ++ suffix)) version := by
  obtain ⟨major, minor⟩ := version
  have written : (text ⟨major, minor⟩ ++ suffix).toList =
      (Text.Numeral.digits major.toNat ++ '.' :: Text.Numeral.digits minor.toNat) ++
        suffix.toList := by
    simp [text, Text.Numeral.ofNat]
  have visible : ∀ c ∈ Text.Numeral.digits major.toNat ++ '.' :: Text.Numeral.digits minor.toNat,
      Text.isBlank c = false := by
    intro c member
    rcases List.mem_append.mp member with first | second
    · exact Text.isBlank_of_isDigit (Text.Numeral.isDigit_of_mem_digits first)
    · rcases List.mem_cons.mp second with rfl | second
      · decide
      · exact Text.isBlank_of_isDigit (Text.Numeral.isDigit_of_mem_digits second)
  obtain ⟨piece, pieces, split, start⟩ := exists_splitOn_append (Text.Numeral.not_mem_digits rfl minor.toNat)
    (suffix.toList.rdropWhile Text.isBlank)
  rw [parts, written, Text.trimChars_append visible (by simp), List.append_assoc, List.cons_append,
    List.splitOn_append_cons_self_of_not_mem (Text.Numeral.not_mem_digits rfl major.toNat), split]
  have major' : Begins (Text.Numeral.digits major.toNat ++ []) major := begins_digits major nofun
  rw [List.append_nil] at major'
  have kept := start.trans (List.rdropWhile_prefix Text.isBlank suffix.toList)
  exact .minor major' (begins_digits minor (isDigit_head?_of_start kept ends))

/-- Reading accepts the texts that denote a version, and nothing else, and it undoes writing. -/
theorem parse_denotes :
    (∀ s version,
      parse s = .ok version ↔ Denotes ((Text.trim s).toList.splitOn '.') version) ∧
    (∀ s, (∀ version, ¬ Denotes ((Text.trim s).toList.splitOn '.') version) →
      ∃ what ∈ ["major", "minor"],
        parse s = .error (.config ("invalid " ++ what ++ " version in '" ++ s ++ "'"))) ∧
    ∀ (version : ServerVersion) (suffix : String),
      (∀ c ∈ suffix.toList.head?, c.isDigit = false) →
        parse (version.text ++ suffix) = .ok version := by
  refine ⟨?_, ?_, ?_⟩
  · intro s version
    rw [Text.toList_trim]
    exact parse_eq_ok_iff
  · intro s senseless
    rw [Text.toList_trim] at senseless
    exact parse_of_not_denotes senseless
  · intro version suffix ends
    exact parse_eq_ok_iff.mpr (denotes_parts_text_append version ends)

/-- Leading zeros are welcome in any number, and one more than the greatest number of 32 bits is
refused, however long the text goes on. -/
theorem parse_denotes_of_numerals :
    Denotes ((Text.trim " 000000000003.2x.y").toList.splitOn '.') ⟨3, 2⟩ ∧
      parse " 000000000003.2x.y" = .ok ⟨3, 2⟩ ∧
      (∀ version, ¬ Denotes ((Text.trim "3.4294967296.1").toList.splitOn '.') version) ∧
      (∃ what ∈ ["major", "minor"], parse "3.4294967296.1" =
        .error (.config ("invalid " ++ what ++ " version in '" ++ "3.4294967296.1" ++ "'"))) ∧
      (∀ c ∈ "-rc.1".toList.head?, c.isDigit = false) ∧
      parse ((⟨4294967295, 0⟩ : ServerVersion).text ++ "-rc.1") = .ok ⟨4294967295, 0⟩ := by
  obtain ⟨accepts, refuses, undoes⟩ := parse_denotes
  have meant : Denotes ((Text.trim " 000000000003.2x.y").toList.splitOn '.') ⟨3, 2⟩ := by
    have pieces : (Text.trim " 000000000003.2x.y").toList.splitOn '.' =
        ["000000000003".toList ++ [], ['2'] ++ ['x'], ['y']] := by decide
    rw [pieces]
    have leading : ∀ c ∈ "000000000003".toList, c.isDigit = true := List.all_eq_true.mp (by decide)
    have two : ∀ c ∈ ['2'], c.isDigit = true := List.all_eq_true.mp (by decide)
    have letter : ∀ c ∈ ['x'].head?, c.isDigit = false := by
      rintro c ⟨⟩
      rfl
    exact .minor (.intro (by decide) leading nofun (by decide))
      (.intro (by decide) two letter (by decide))
  have senseless : ∀ version,
      ¬ Denotes ((Text.trim "3.4294967296.1").toList.splitOn '.') version := by
    intro version denotes
    have refused : parse "3.4294967296.1" = .error (refusal "minor" "3.4294967296.1") := by decide
    have read := (accepts _ version).mpr denotes
    rw [refused] at read
    contradiction
  have ends : ∀ c ∈ "-rc.1".toList.head?, c.isDigit = false := by
    rintro c ⟨⟩
    rfl
  exact ⟨meant, (accepts _ _).mpr meant, senseless, refuses _ senseless, ends, undoes _ _ ends⟩

end ServerVersion

end DocQuery
