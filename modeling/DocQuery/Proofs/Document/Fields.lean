import DocQuery.Document.Fields

/-!
# Entries of fields

What stands in fields after insertions: an entry is either one of the inserted ones or was there
before, and a name is there exactly if it has been inserted or was there before.
-/

universe u v

namespace DocQuery.Fields

variable {α : Type u}

@[simp] theorem isEmpty_map {β : Type v} (f : α → β) (fields : Fields α) :
    (fields.map f).isEmpty = fields.isEmpty := by
  simp [isEmpty, map]

theorem get?_map {β : Type v} (f : α → β) (fields : Fields α) (name : String) :
    (fields.map f).get? name = (fields.get? name).map f := by
  rw [get?, map, List.find?_map, get?, Option.map_map, Option.map_map]
  rfl

@[simp] theorem names_singleton (name : String) (value : α) :
    (singleton name value).names = [name] := rfl

private theorem mem_insertEntry {name : String} {value : α} {entry : String × α}
    {entries : List (String × α)} (member : entry ∈ insertEntry name value entries) :
    entry = (name, value) ∨ entry ∈ entries := by
  induction entries with
  | nil => simpa [insertEntry] using member
  | cons first rest ih =>
      by_cases same : first.1 = name
      · rw [insertEntry, if_pos same] at member
        rcases List.mem_cons.mp member with new | old
        · exact .inl new
        · exact .inr (List.mem_cons_of_mem first old)
      · rw [insertEntry, if_neg same] at member
        rcases List.mem_cons.mp member with kept | later
        · exact .inr (kept ▸ List.mem_cons_self)
        · exact (ih later).imp_right (List.mem_cons_of_mem first)

/-- An insertion brings in no entry but the inserted one. -/
theorem mem_entries_insert {fields : Fields α} {name : String} {value : α} {entry : String × α}
    (member : entry ∈ (fields.insert name value).entries) :
    entry = (name, value) ∨ entry ∈ fields.entries :=
  mem_insertEntry member

/-- Insertions bring in no entries but the inserted ones. -/
theorem mem_entries_insertAll {fields : Fields α} {entries : List (String × α)}
    {entry : String × α} (member : entry ∈ (fields.insertAll entries).entries) :
    entry ∈ entries ∨ entry ∈ fields.entries := by
  induction entries generalizing fields with
  | nil => exact .inr member
  | cons first rest ih =>
      rcases ih member with later | old
      · exact .inl (List.mem_cons_of_mem first later)
      · rcases mem_entries_insert old with rfl | before
        · exact .inl List.mem_cons_self
        · exact .inr before

theorem mem_entries_ofList {entries : List (String × α)} {entry : String × α}
    (member : entry ∈ (ofList entries).entries) : entry ∈ entries :=
  (mem_entries_insertAll member).resolve_right List.not_mem_nil

theorem mem_names_insertAll {fields : Fields α} {entries : List (String × α)} {name : String} :
    name ∈ (fields.insertAll entries).names ↔
      name ∈ fields.names ∨ name ∈ entries.map Prod.fst := by
  induction entries generalizing fields with
  | nil => simp
  | cons entry rest ih =>
      rw [insertAll_cons, ih, mem_names_insert, List.map_cons, List.mem_cons, or_assoc]

/-- What is found under a name is an entry. -/
theorem mem_entries_of_get? {fields : Fields α} {name : String} {value : α}
    (found : fields.get? name = some value) : (name, value) ∈ fields.entries := by
  obtain ⟨entry, first, rfl⟩ := Option.map_eq_some_iff.mp found
  have same : entry.1 = name := by simpa using List.find?_some first
  exact same ▸ List.mem_of_find?_eq_some first

theorem mem_names_of_get? {fields : Fields α} {name : String} {value : α}
    (found : fields.get? name = some value) : name ∈ fields.names :=
  List.mem_map.mpr ⟨_, mem_entries_of_get? found, rfl⟩

/-- Fields with a name are not empty. -/
theorem isEmpty_of_mem_names {fields : Fields α} {name : String} (member : name ∈ fields.names) :
    fields.isEmpty = false := by
  obtain ⟨entry, member, -⟩ := List.mem_map.mp member
  rw [isEmpty, List.isEmpty_eq_false_iff]
  exact List.ne_nil_of_mem member

theorem not_mem_names_of_get? {fields : Fields α} {name : String}
    (missing : fields.get? name = none) : name ∉ fields.names := by
  intro member
  obtain ⟨entry, inside, named⟩ := List.mem_map.mp member
  have nowhere := List.find?_eq_none.mp (Option.map_eq_none_iff.mp missing) entry inside
  exact nowhere (decide_eq_true named)

private theorem insertEntry_insertEntry (name : String) (first second : α)
    (entries : List (String × α)) :
    insertEntry name second (insertEntry name first entries) = insertEntry name second entries := by
  induction entries with
  | nil => simp [insertEntry]
  | cons entry rest ih =>
      by_cases same : entry.1 = name
      · simp [insertEntry, same]
      · simp [insertEntry, same, ih]

/-- Of two values that are put under one name the second one stays. -/
theorem insert_insert (fields : Fields α) (name : String) (first second : α) :
    (fields.insert name first).insert name second = fields.insert name second :=
  congrArg Fields.mk (insertEntry_insertEntry name first second fields.entries)

private theorem find?_of_mem {name : String} {value : α} {entries : List (String × α)}
    (distinct : (entries.map Prod.fst).Nodup) (member : (name, value) ∈ entries) :
    entries.find? (·.1 = name) = some (name, value) := by
  induction entries with
  | nil => exact absurd member List.not_mem_nil
  | cons first rest ih =>
      rw [List.map_cons, List.nodup_cons] at distinct
      rcases List.mem_cons.mp member with rfl | later
      · exact List.find?_cons_of_pos (by simp)
      · have other : first.1 ≠ name := by
          rintro rfl
          exact distinct.1 (List.mem_map.mpr ⟨_, later, rfl⟩)
        rw [List.find?_cons_of_neg (by simpa using other)]
        exact ih distinct.2 later

/-- An entry is found under its name if no other one has this name. -/
theorem get?_of_mem {fields : Fields α} (distinct : fields.names.Nodup) {name : String} {value : α}
    (member : (name, value) ∈ fields.entries) : fields.get? name = some value := by
  rw [get?, find?_of_mem distinct member, Option.map_some]

theorem map_some_entries {fields : Fields α} (distinct : fields.names.Nodup) :
    fields.entries.map some = fields.names.map fun name => (fields.get? name).map (Prod.mk name) := by
  rw [names, List.map_map, List.map_inj_left]
  intro entry member
  rw [Function.comp_apply, get?_of_mem distinct member, Option.map_some]

/-- Fields with each name once are told by the order of the names and by what stands under them. -/
theorem eq_of_get?_eq {a b : Fields α} (distinct : a.names.Nodup) (names : a.names = b.names)
    (values : ∀ name, a.get? name = b.get? name) : a = b := by
  have entries : a.entries.map some = b.entries.map some := by
    rw [map_some_entries distinct, map_some_entries (names ▸ distinct), names]
    simp only [values]
  exact congrArg Fields.mk ((List.map_inj_right fun _ _ => Option.some.inj).mp entries)

/-- Fields behind one with a new name. -/
theorem insertAll_singleton {fields : Fields α} {name : String} {value : α}
    (distinct : fields.names.Nodup) (new : name ∉ fields.names) :
    (singleton name value).insertAll fields.entries = ⟨(name, value) :: fields.entries⟩ :=
  insertAll_of_nodup (singleton name value) fields.entries (List.nodup_cons.mpr ⟨new, distinct⟩)

end DocQuery.Fields
