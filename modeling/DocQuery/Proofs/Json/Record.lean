import DocQuery.Json.Record
import DocQuery.Proofs.Json.ReadingBack
import Mathlib.Data.List.Nodup

/-!
# Records that are read back

A record is written as an object that has each of its names once, and from such an object every
field is read back by its name. It may be read from less than that. An object may hold any of the
fields, in any order and with anything else between them: members of other names are passed over,
whatever they hold. An array holds the first fields, as many as it has items. Two things are
refused: a field that is given twice, since none of the two would have to be the right one, and an
array that goes on behind the last field.

What a field holds comes back too: numbers that fit into their word, and values that may be absent,
which are written as null, as long as nothing that is there is written so.
-/

namespace DocQuery.Json

/-! ## Some of the fields -/

def named (members : List (String × Json)) : Json :=
  .object (members.map fun member => (some member.1, member.2))

/-- The fields of a record of which those with the chosen names are given. -/
def given (names : List String) (values : List Json) (chosen : List String) :
    List (Option Json) :=
  (names.zip values).map fun entry => if entry.1 ∈ chosen then some entry.2 else none

section

variable {names : List String} {values : List Json}

theorem map_fst_zip (same : names.length = values.length) :
    (names.zip values).map Prod.fst = names :=
  List.map_fst_zip (Nat.le_of_eq same)

/-- A name has one value only. -/
theorem eq_of_mem_zip (distinct : names.Nodup) (same : names.length = values.length)
    {a b : String × Json} (first : a ∈ names.zip values) (second : b ∈ names.zip values)
    (named : a.1 = b.1) : a = b :=
  List.inj_on_of_nodup_map (by rwa [map_fst_zip same]) first second named

section

variable {chosen : List String} {members : List (String × Json)}

/-- Among members that are the chosen fields in some order, each field is found by its name, and no
others are found. -/
theorem find?_of_perm (distinct : names.Nodup) (same : names.length = values.length)
    (perm : (members.filter (·.1 ∈ names)).Perm ((names.zip values).filter (·.1 ∈ chosen)))
    {entry : String × Json} (inside : entry ∈ names.zip values) :
    members.find? (·.1 = entry.1) = if entry.1 ∈ chosen then some entry else none := by
  have known : entry.1 ∈ names := (List.of_mem_zip (a := entry.1) (b := entry.2) inside).1
  have found : ∀ member ∈ members, member.1 = entry.1 → entry.1 ∈ chosen ∧ member = entry := by
    intro member there same'
    have field := perm.mem_iff.mp (List.mem_filter.mpr ⟨there, by simpa [same'] using known⟩)
    obtain ⟨zipped, taken⟩ := List.mem_filter.mp field
    refine ⟨?_, eq_of_mem_zip distinct same zipped inside same'⟩
    simpa [same'] using taken
  split
  · rename_i taken
    have there := perm.mem_iff.mpr (List.mem_filter.mpr ⟨inside, by simpa using taken⟩)
    cases result : members.find? (·.1 = entry.1) with
    | none =>
        have absent := List.find?_eq_none.mp result entry (List.mem_of_mem_filter there)
        simp at absent
    | some member =>
        have right := List.find?_some result
        exact congrArg some
          (found member (List.mem_of_find?_eq_some result) (of_decide_eq_true right)).2
  · rename_i left
    rw [List.find?_eq_none]
    intro member there same'
    exact left (found member there (of_decide_eq_true same')).1

theorem countP_le_of_perm (distinct : names.Nodup) (same : names.length = values.length)
    (perm : (members.filter (·.1 ∈ names)).Perm ((names.zip values).filter (·.1 ∈ chosen)))
    {name : String} (known : name ∈ names) : members.countP (·.1 = name) ≤ 1 := by
  calc members.countP (·.1 = name)
      = (members.filter (·.1 ∈ names)).countP (·.1 = name) := by
        rw [List.countP_filter]
        refine List.countP_congr fun member _ => ?_
        simp only [decide_eq_true_eq, Bool.and_eq_true]
        exact ⟨fun found => ⟨found, found ▸ known⟩, And.left⟩
    _ = ((names.zip values).filter (·.1 ∈ chosen)).countP (·.1 = name) := perm.countP_eq _
    _ ≤ (names.zip values).countP (·.1 = name) := List.filter_sublist.countP_le
    _ = names.countP (· = name) := by
        conv_rhs => rw [← map_fst_zip same, List.countP_map]
        rfl
    _ ≤ 1 := List.nodup_iff_count_le_one.mp distinct name

/-- From an object that holds the chosen fields of a record in any order, and between them anything
under other names, these fields are read. -/
theorem fields?_named (distinct : names.Nodup) (same : names.length = values.length)
    (perm : (members.filter (·.1 ∈ names)).Perm ((names.zip values).filter (·.1 ∈ chosen))) :
    fields? names (named members) = some (given names values chosen) := by
  rw [named, fields?, if_pos]
  · rw [given]
    conv_lhs => rw [← map_fst_zip same, List.map_map]
    refine congrArg some (List.map_congr_left fun entry inside => ?_)
    have found := find?_of_perm distinct same perm inside
    simp only [Function.comp_def, List.find?_map, Option.map_map, Option.some.injEq, found]
    split <;> rfl
  · constructor
    · simp
    · intro name known
      rw [List.countP_map]
      have once := countP_le_of_perm distinct same perm known
      simpa [Function.comp_def] using once

end

/-- From an array of the first fields of a record these fields are read. -/
theorem fields?_array_take (distinct : names.Nodup) (same : names.length = values.length)
    (k : Nat) :
    fields? names (.array (values.take k)) = some (given names values (names.take k)) := by
  have short : (values.take k).length ≤ names.length := by
    rw [List.length_take]
    omega
  rw [fields?, if_pos short, given]
  refine congrArg some (List.ext_getElem (by simp [same]) fun index first second => ?_)
  have inside : index < names.length := by simpa using first
  have early : names[index] ∈ names.take k ↔ index < k := by
    rw [List.mem_take_iff_getElem]
    constructor
    · rintro ⟨other, before, same'⟩
      obtain rfl := (List.Nodup.getElem_inj_iff distinct).mp same'
      omega
    · exact fun before => ⟨index, by omega, rfl⟩
  simp only [List.getElem_map, List.getElem_range, List.getElem_zip, early, List.getElem?_take]
  split
  · exact List.getElem?_eq_getElem (same ▸ inside)
  · rfl

end

/-- A field that is given twice is refused. -/
theorem fields?_of_twice {names : List String} {members : List (Option String × Json)}
    {name : String} (known : name ∈ names) (twice : 2 ≤ members.countP (·.1 = some name)) :
    fields? names (.object members) = none := by
  rw [fields?, if_neg]
  rintro ⟨-, once⟩
  have less := once name known
  omega

/-- An array that goes on behind the last field is refused. -/
theorem fields?_of_long {names : List String} {items : List Json}
    (long : names.length < items.length) : fields? names (.array items) = none := by
  rw [fields?, if_neg (Nat.not_le_of_lt long)]

/-! ## Whole records -/

/-- The object in which each of some names has a value. -/
def record (names : List String) (values : List Json) : Json :=
  .object ((names.map some).zip values)

theorem record_eq_named (names : List String) (values : List Json) :
    record names values = named (names.zip values) := by
  rw [record, named, List.zip_map_left]
  rfl

/-- Each field of a record is read back by its name. -/
theorem fields?_record {names : List String} {values : List Json} (distinct : names.Nodup)
    (same : names.length = values.length) :
    fields? names (record names values) = some (values.map some) := by
  have known : ∀ entry ∈ names.zip values, entry.1 ∈ names :=
    fun entry inside => (List.of_mem_zip (a := entry.1) (b := entry.2) inside).1
  have seconds : (names.zip values).map Prod.snd = values :=
    List.map_snd_zip (Nat.le_of_eq same.symm)
  have all : given names values names = values.map some := by
    calc given names values names
        = (names.zip values).map (some ∘ Prod.snd) :=
          List.map_congr_left fun entry inside => if_pos (known entry inside)
      _ = values.map some := by rw [← List.map_map, seconds]
  rw [record_eq_named, fields?_named distinct same (.refl _), all]

/-- A record has no names but its own. -/
theorem hasOnly_record (names : List String) (values : List Json) :
    (record names values).hasOnly names = true := by
  rw [record, hasOnly, List.all_eq_true]
  rintro ⟨name, value⟩ member
  obtain ⟨text, inside, rfl⟩ := List.mem_map.mp (List.of_mem_zip member).1
  simpa using inside

/-- A record is as legible as the values in it. -/
theorem Legible.record (names : List String) {values : List Json}
    (all : ∀ value ∈ values, Legible value) : Legible (record names values) := by
  refine .object ?_ ?_
  · rintro ⟨name, value⟩ member
    obtain ⟨text, -, rfl⟩ := List.mem_map.mp (List.of_mem_zip member).1
    rfl
  · rintro ⟨name, value⟩ member
    exact all value (List.of_mem_zip member).2

theorem Legible.ofOption {α : Type} {write : α → Json} (all : ∀ a, Legible (write a))
    (content : Option α) : Legible (ofOption write content) := by
  cases content with
  | none => exact .null
  | some a => exact all a

/-! ## Fields -/

theorem text?_text (s : String) : text? (.text s) = some s := rfl

theorem bool?_bool (b : Bool) : bool? (.bool b) = some b := rfl

theorem orDefault_some {α : Type} (read : Json → Option α) (default : α) (json : Json) :
    orDefault read default (some json) = read json := rfl

theorem natBelow?_int {bound n : Nat} (small : n < bound) :
    natBelow? bound (.int n) = some n := by
  rw [natBelow?, if_pos (by omega), Int.toNat_natCast]

@[simp] theorem uint32?_toNat (n : UInt32) : uint32? (.int n.toNat) = some n := by
  rw [uint32?, natBelow?_int n.toNat_lt, Option.map_some, UInt32.ofNat_toNat]

@[simp] theorem uint64?_toNat (n : UInt64) : uint64? (.int n.toNat) = some n := by
  rw [uint64?, natBelow?_int n.toNat_lt, Option.map_some, UInt64.ofNat_toNat]

/-- What may be absent is read back if null is written for nothing else. -/
theorem optional?_ofOption {α : Type} {read : Json → Option α} {write : α → Json}
    (back : ∀ a, read (write a) = some a) (present : ∀ a, write a ≠ .null) (content : Option α) :
    optional? read (ofOption write content) = some content := by
  cases content with
  | none => rfl
  | some a =>
      rw [ofOption, optional?, back]
      · rfl
      · exact present a

end DocQuery.Json
