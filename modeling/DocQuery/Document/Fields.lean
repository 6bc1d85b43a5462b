/-!
# Named values in order

A document is a list of named values whose order is part of its meaning: the server reads an
update, a projection or a sort specification from left to right. Giving a value to a name that is
already there changes the value and keeps the place, so a document that is built by insertions has
each name once.
-/

universe u v

namespace DocQuery

/-- Named values, in the order in which the names were first given. -/
structure Fields (α : Type u) where
  entries : List (String × α)
deriving DecidableEq, Repr

namespace Fields

variable {α : Type u}

def empty : Fields α := ⟨[]⟩

instance : Inhabited (Fields α) := ⟨empty⟩

instance : EmptyCollection (Fields α) := ⟨empty⟩

def singleton (name : String) (value : α) : Fields α := ⟨[(name, value)]⟩

def names (fields : Fields α) : List String :=
  fields.entries.map Prod.fst

def isEmpty (fields : Fields α) : Bool :=
  fields.entries.isEmpty

def get? (fields : Fields α) (name : String) : Option α :=
  (fields.entries.find? (·.1 = name)).map Prod.snd

/-- Puts a value under a name: in the place of the name, or at the end if it is new. -/
def insertEntry (name : String) (value : α) : List (String × α) → List (String × α)
  | [] => [(name, value)]
  | entry :: rest =>
    if entry.1 = name then (name, value) :: rest else entry :: insertEntry name value rest

def insert (fields : Fields α) (name : String) (value : α) : Fields α :=
  ⟨insertEntry name value fields.entries⟩

def insertAll (fields : Fields α) (entries : List (String × α)) : Fields α :=
  entries.foldl (fun fields entry => fields.insert entry.1 entry.2) fields

/-- The fields that arise from inserting named values one after another. -/
def ofList (entries : List (String × α)) : Fields α :=
  empty.insertAll entries

def map {β : Type v} (f : α → β) (fields : Fields α) : Fields β :=
  ⟨fields.entries.map fun entry => (entry.1, f entry.2)⟩

@[simp] theorem names_map {β : Type v} (f : α → β) (fields : Fields α) :
    (fields.map f).names = fields.names := by
  simp [map, names]

@[simp] theorem entries_empty : (∅ : Fields α).entries = [] := rfl

@[simp] theorem isEmpty_empty : (∅ : Fields α).isEmpty = true := rfl

@[simp] theorem names_empty : (∅ : Fields α).names = [] := rfl

@[simp] theorem get?_empty (name : String) : (∅ : Fields α).get? name = none := rfl

@[simp] theorem ofList_nil : ofList ([] : List (String × α)) = ∅ := rfl

@[simp] theorem insertAll_nil (fields : Fields α) : fields.insertAll [] = fields := rfl

@[simp] theorem insertAll_cons (fields : Fields α) (entry : String × α)
    (entries : List (String × α)) :
    fields.insertAll (entry :: entries) =
      (fields.insert entry.1 entry.2).insertAll entries := rfl

theorem isEmpty_iff {fields : Fields α} : fields.isEmpty = true ↔ fields = ∅ := by
  cases fields with
  | mk entries => cases entries <;> simp [isEmpty, EmptyCollection.emptyCollection, empty]

private theorem insertEntry_ne_nil (name : String) (value : α) (entries : List (String × α)) :
    insertEntry name value entries ≠ [] := by
  cases entries with
  | nil => simp [insertEntry]
  | cons entry rest => by_cases h : entry.1 = name <;> simp [insertEntry, h]

/-- After an insertion there is a field. -/
@[simp] theorem isEmpty_insert (fields : Fields α) (name : String) (value : α) :
    (fields.insert name value).isEmpty = false := by
  simp [isEmpty, insert, insertEntry_ne_nil]

private theorem find?_insertEntry_self (name : String) (value : α) (entries : List (String × α)) :
    (insertEntry name value entries).find? (·.1 = name) = some (name, value) := by
  induction entries with
  | nil => simp [insertEntry]
  | cons entry rest ih => by_cases h : entry.1 = name <;> simp [insertEntry, h, ih]

private theorem find?_insertEntry_of_ne {name other : String} (value : α)
    (entries : List (String × α)) (h : other ≠ name) :
    (insertEntry name value entries).find? (·.1 = other) = entries.find? (·.1 = other) := by
  induction entries with
  | nil => simp [insertEntry, h.symm]
  | cons entry rest ih =>
    by_cases hn : entry.1 = name
    · simp [insertEntry, hn, h.symm]
    · rw [insertEntry, if_neg hn, List.find?_cons, ih, List.find?_cons]

/-- The value inserted last is the one that is found. -/
@[simp] theorem get?_insert_self (fields : Fields α) (name : String) (value : α) :
    (fields.insert name value).get? name = some value := by
  simp [get?, insert, find?_insertEntry_self]

/-- An insertion leaves the values under other names alone. -/
theorem get?_insert_of_ne (fields : Fields α) {name other : String} (value : α)
    (h : other ≠ name) : (fields.insert name value).get? other = fields.get? other := by
  simp [get?, insert, find?_insertEntry_of_ne value _ h]

private theorem map_fst_insertEntry (name : String) (value : α) (entries : List (String × α)) :
    (insertEntry name value entries).map Prod.fst =
      if name ∈ entries.map Prod.fst then entries.map Prod.fst
      else entries.map Prod.fst ++ [name] := by
  induction entries with
  | nil => simp [insertEntry]
  | cons entry rest ih =>
    by_cases h : entry.1 = name
    · simp [insertEntry, h]
    · have h' : ¬ name = entry.1 := fun e => h e.symm
      rw [insertEntry, if_neg h, List.map_cons, ih, List.map_cons]
      by_cases m : name ∈ rest.map Prod.fst
      · rw [if_pos m, if_pos (List.mem_cons_of_mem _ m)]
      · rw [if_neg m, if_neg (by simpa [h'] using m), List.cons_append]

/-- A name that is there keeps its place; a new one comes last. -/
theorem names_insert (fields : Fields α) (name : String) (value : α) :
    (fields.insert name value).names =
      if name ∈ fields.names then fields.names else fields.names ++ [name] :=
  map_fst_insertEntry name value fields.entries

@[simp] theorem mem_names_insert {fields : Fields α} {name other : String} {value : α} :
    other ∈ (fields.insert name value).names ↔ other ∈ fields.names ∨ other = name := by
  rw [names_insert]
  by_cases h : name ∈ fields.names
  · rw [if_pos h]
    exact ⟨Or.inl, fun m => m.elim id fun e => e ▸ h⟩
  · simp [h]

/-- Fields built by insertions have each name once. -/
theorem nodup_names_insertAll {fields : Fields α} (entries : List (String × α))
    (h : fields.names.Nodup) : (fields.insertAll entries).names.Nodup := by
  induction entries generalizing fields with
  | nil => simpa using h
  | cons entry rest ih =>
    refine ih ?_
    rw [names_insert]
    by_cases m : entry.1 ∈ fields.names
    · simpa [m] using h
    · rw [if_neg m, List.nodup_append]
      exact ⟨h, by simp, fun a ha b hb e => m (by simp_all)⟩

theorem nodup_names_ofList (entries : List (String × α)) : (ofList entries).names.Nodup :=
  nodup_names_insertAll entries List.nodup_nil

private theorem insertEntry_of_not_mem (name : String) (value : α) (entries : List (String × α))
    (h : name ∉ entries.map Prod.fst) :
    insertEntry name value entries = entries ++ [(name, value)] := by
  induction entries with
  | nil => rfl
  | cons entry rest ih =>
    simp only [List.map_cons, List.mem_cons, not_or] at h
    have h' : ¬ entry.1 = name := fun e => h.1 e.symm
    simp [insertEntry, h', ih h.2]

theorem insertAll_of_nodup (fields : Fields α) (entries : List (String × α))
    (h : (fields.entries ++ entries).map Prod.fst |>.Nodup) :
    fields.insertAll entries = ⟨fields.entries ++ entries⟩ := by
  induction entries generalizing fields with
  | nil => simp
  | cons entry rest ih =>
    have new : entry.1 ∉ fields.entries.map Prod.fst := by
      simp only [List.map_append, List.map_cons, List.nodup_append, List.mem_cons] at h
      exact fun m => h.2.2 _ m _ (Or.inl rfl) rfl
    rw [insertAll_cons, insert, insertEntry_of_not_mem _ _ _ new, ih _ (by simpa using h)]
    simp

/-- Named values whose names differ are the fields they build. -/
theorem ofList_of_nodup {entries : List (String × α)} (h : (entries.map Prod.fst).Nodup) :
    ofList entries = ⟨entries⟩ := by
  simpa [ofList, empty] using insertAll_of_nodup empty entries (by simpa [empty] using h)

end Fields

end DocQuery
