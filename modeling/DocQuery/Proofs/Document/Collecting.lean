import Mathlib.Data.List.Perm.Subperm
import DocQuery.Proofs.Document.Fields

/-!
# Fields that collect named values

Named values that are inserted one after another are collected: a name has the place of its first
value and holds its last one. This says which fields arise from a list of named values, without
saying how they are built.
-/

universe u

namespace DocQuery

/-- Behind other items, an item is a new one if it is none of them. -/
theorem eraseDups_concat {α : Type u} [BEq α] [LawfulBEq α] (items : List α)
    (item : α) :
    (items ++ [item]).eraseDups =
      if item ∈ items then items.eraseDups else items.eraseDups ++ [item] := by
  rw [List.eraseDups_append, List.removeAll]
  by_cases old : item ∈ items
  · simp [old]
  · simp [old, List.eraseDups_cons]

namespace Fields

variable {α : Type u}

/-- The fields have the names of some named values, each once, in the order in which they come up
first, and under each name the last value that has it. -/
structure Collects (fields : Fields α) (entries : List (String × α)) : Prop where
  names : fields.names = (entries.map Prod.fst).eraseDups
  values : ∀ name, fields.get? name = ((entries.filter (·.1 = name)).getLast?).map Prod.snd

namespace Collects

variable {fields : Fields α} {entries : List (String × α)}

theorem empty : Collects (∅ : Fields α) [] := ⟨rfl, fun _ => rfl⟩

/-- One more value is collected by its insertion. -/
theorem insert (collects : fields.Collects entries) (name : String) (value : α) :
    (fields.insert name value).Collects (entries ++ [(name, value)]) := by
  constructor
  · rw [names_insert, collects.names, List.map_append, List.map_singleton, eraseDups_concat]
    simp only [List.mem_eraseDups]
  · intro other
    rw [List.filter_append]
    by_cases same : name = other
    · rw [same, get?_insert_self, List.filter_cons_of_pos (by simp), List.filter_nil,
        List.getLast?_concat, Option.map_some]
    · rw [get?_insert_of_ne fields value fun eq => same eq.symm, collects.values,
        List.filter_cons_of_neg (by simpa using same), List.filter_nil, List.append_nil]

/-- With a name there is a field. -/
theorem isEmpty_of_mem (collects : fields.Collects entries) {entry : String × α}
    (member : entry ∈ entries) : fields.isEmpty = false := by
  have named : entry.1 ∈ fields.names := by
    rw [collects.names, List.mem_eraseDups]
    exact List.mem_map_of_mem member
  exact isEmpty_of_mem_names named

/-- Insertions collect what they insert behind what has been collected before. -/
theorem insertAll (collects : fields.Collects entries) (later : List (String × α)) :
    (fields.insertAll later).Collects (entries ++ later) := by
  induction later generalizing fields entries with
  | nil => rwa [List.append_nil]
  | cons entry later ih =>
      rw [insertAll_cons, List.append_cons]
      exact ih (collects.insert entry.1 entry.2)

end Collects

/-- Fields that are built by insertions collect what is inserted. -/
theorem collects_ofList (entries : List (String × α)) : (ofList entries).Collects entries :=
  Collects.empty.insertAll entries

/-- There are as many fields as named values exactly if no name comes twice. -/
theorem length_entries_ofList_iff {entries : List (String × α)} :
    (ofList entries).entries.length = entries.length ↔ (entries.map Prod.fst).Nodup := by
  constructor
  · intro same
    have listed : (ofList entries).names ⊆ entries.map Prod.fst := by
      intro name member
      rwa [(collects_ofList entries).names, List.mem_eraseDups] at member
    have subperm := (nodup_names_ofList entries).subperm listed
    have long : (ofList entries).names.length = (entries.map Prod.fst).length := by
      rw [names, List.length_map, List.length_map, same]
    exact (subperm.perm_of_length_le (Nat.le_of_eq long.symm)).nodup (nodup_names_ofList entries)
  · intro distinct
    rw [ofList_of_nodup distinct]

/-- Nothing else collects the same named values. -/
theorem Collects.eq_ofList {fields : Fields α} {entries : List (String × α)}
    (collects : fields.Collects entries) : fields = ofList entries := by
  have built := collects_ofList entries
  apply eq_of_get?_eq
  · rw [collects.names, ← built.names]
    exact nodup_names_ofList entries
  · rw [collects.names, built.names]
  · intro name
    rw [collects.values, built.values]

end Fields

end DocQuery
