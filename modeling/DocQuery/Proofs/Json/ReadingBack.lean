import DocQuery.Proofs.Json.Literals
import DocQuery.Proofs.Json.Reading

/-!
# Trees that are read back

The compact text of a tree says this tree and no other: it is one of the spellings of the tree, so
whoever reads the text gets the tree back, with its members in their order. That needs a tree whose
strings denote texts. Numbers are looked at as integers only.
-/

namespace DocQuery.Json

open Grammar

/-- A tree that text says completely: its strings denote texts, and its numbers are integers. -/
inductive Legible : Json → Prop where
  | null : Legible .null
  | bool (b : Bool) : Legible (.bool b)
  | int (n : Int) : Legible (.int n)
  | text (s : String) : Legible (.text s)
  | array {items : List Json} (all : ∀ item ∈ items, Legible item) : Legible (.array items)
  | object {members : List (Option String × Json)} (named : ∀ member ∈ members, member.1.isSome)
      (all : ∀ member ∈ members, Legible member.2) : Legible (.object members)

theorem append_itemsTail (item : Json) (items : List Json) :
    item.chars ++ itemsTail items = [','].intercalate ((item :: items).map chars) ++ [']'] := by
  induction items generalizing item with
  | nil => simp [itemsTail]
  | cons next items ih => simp [itemsTail, ih next]

/-- An array is written as its items with commas between them. -/
theorem chars_array (items : List Json) :
    chars (.array items) = '[' :: [','].intercalate (items.map chars) ++ [']'] := by
  cases items with
  | nil => rfl
  | cons item items => rw [chars, List.cons_append, append_itemsTail, List.cons_append]

/-- A member as it is written, without blanks. -/
def Grammar.Member.ofPair (member : Option String × Json) : Member :=
  ⟨member.1, member.2, quoted member.1, member.2.chars⟩

theorem append_membersTail (member : Option String × Json)
    (members : List (Option String × Json)) :
    (Member.ofPair member).chars ++ membersTail members =
      [','].intercalate (((member :: members).map Member.ofPair).map Member.chars) ++
        ['\x7d'] := by
  induction members generalizing member with
  | nil => simp [membersTail]
  | cons next members ih => simpa [membersTail, Member.ofPair, Member.chars] using ih next

/-- An object is written as its members with commas between them. -/
theorem chars_object (members : List (Option String × Json)) :
    chars (.object members) =
      '\x7b' :: [','].intercalate ((members.map Member.ofPair).map Member.chars) ++ ['\x7d'] := by
  cases members with
  | nil => rfl
  | cons member members =>
      rw [List.cons_append, ← append_membersTail]
      simp [chars, Member.ofPair, Member.chars]

theorem label_quoted (name : String) : Label (quoted (some name)) (some name) := by
  have bare : Blanks [] := fun c member => by contradiction
  simpa using Label.intro bare (literal_quoted name) bare

/-- What is written for a legible tree is a spelling of it. -/
theorem spells_chars {json : Json} (legible : json.Legible) : Spells json.chars json := by
  have bare : Blanks [] := fun c member => by contradiction
  induction legible with
  | null => exact .null
  | bool b =>
      cases b with
      | false => exact .no
      | true => exact .yes
  | int n => exact spells_intChars n
  | text s => exact .string (literal_quoted s)
  | @array items _ ih =>
      rw [chars_array]
      by_cases empty : items = []
      · subst empty
        exact .noItems bare
      · have spelled := @Spells.items (items.map fun item => (item, item.chars))
          (by simpa using empty) (List.forall_mem_map.mpr ih)
        simpa [Function.comp_def] using spelled
  | @object members named _ ih =>
      rw [chars_object]
      by_cases empty : members = []
      · subst empty
        exact .noMembers bare
      · have labels : ∀ member ∈ members, Label (quoted member.1) member.1 := by
          intro member inside
          obtain ⟨name, found⟩ := Option.isSome_iff_exists.mp (named member inside)
          rw [found]
          exact label_quoted name
        have spelled := @Spells.members (members.map Member.ofPair)
          (by simpa using empty) (List.forall_mem_map.mpr labels) (List.forall_mem_map.mpr ih)
        simpa [Function.comp_def, Member.ofPair] using spelled

/-- A legible tree is read back from its text. -/
theorem parse_compact {json : Json} (legible : json.Legible) :
    Json.parse json.compact = some json := by
  apply parse_of_spells
  rw [compact, String.toList_ofList]
  exact spells_chars legible

end DocQuery.Json
