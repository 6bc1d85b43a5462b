import DocQuery.Proofs.Document.Fields
import DocQuery.Proofs.Traversal
import DocQuery.Session.Plan

/-!
# What is left of raw documents

Bringing documents into canonical form merges fields whose names become equal, and never takes the
last field away: a document, a filter or an update is without fields only if it was written without
fields. So whether something is stored for a raw document, and whether an update asks for something,
can be told from what the caller wrote.
-/

namespace DocQuery

variable {τ : Type}

namespace Fields

theorem isEmpty_insertAll {α : Type} (fields : Fields α) (entries : List (String × α)) :
    (fields.insertAll entries).isEmpty = (fields.isEmpty && entries.isEmpty) := by
  induction entries generalizing fields with
  | nil => rw [insertAll_nil, List.isEmpty_nil, Bool.and_true]
  | cons entry rest ih =>
      rw [insertAll_cons, ih, isEmpty_insert, List.isEmpty_cons, Bool.and_false, Bool.false_and]

theorem isEmpty_ofList {α : Type} (entries : List (String × α)) :
    (ofList entries).isEmpty = entries.isEmpty := by
  rw [ofList, isEmpty_insertAll]
  rfl

end Fields

namespace PrimaryKey

variable (key : PrimaryKey τ)

/-- Only texts under the primary key are changed. -/
theorem canonicalValue_of_other {field : String} {value : Value}
    (other : field = key.field → ∀ raw, value ≠ .string raw) (source : τ) :
    key.canonicalValue field value source = (value, source) := by
  cases value with
  | string raw =>
      rw [canonicalValue, if_neg fun named => other named raw rfl]
      rfl
  | _ => rfl

theorem canonicalEntry_of_other {name : String} {value : Value}
    (other : Text.trim name = key.field → ∀ raw, value ≠ .string raw) (source : τ) :
    key.canonicalEntry (name, value) source = ((Text.trim name, value), source) := by
  simp only [canonicalEntry, bind, StateT.bind, key.canonicalValue_of_other other]
  rfl

theorem canonicalFilter_eq (raw : Document) (source : τ) :
    key.canonicalFilter raw source =
      (.ofList (raw.entries.mapM key.canonicalEntry source).1,
        (raw.entries.mapM key.canonicalEntry source).2) := rfl

/-- No document loses all its fields. -/
theorem isEmpty_canonicalFilter (raw : Document) (source : τ) :
    (key.canonicalFilter raw source).1.isEmpty = raw.isEmpty := by
  rw [canonicalFilter_eq, Fields.isEmpty_ofList, Traversal.isEmpty_mapM]
  rfl

/-- The canonical form has each name once. -/
theorem nodup_names_canonicalFilter (raw : Document) (source : τ) :
    (key.canonicalFilter raw source).1.names.Nodup :=
  Fields.nodup_names_ofList _

theorem canonicalInsert_eq (raw : Document) (source : τ) :
    key.canonicalInsert raw source =
      (if raw.isEmpty then .error .emptyDocument else .ok (key.canonicalFilter raw source).1,
        (key.canonicalFilter raw source).2) := by
  rw [← key.isEmpty_canonicalFilter raw source]
  rfl

theorem canonicalInsert_of_fields {raw : Document} (fields : raw.isEmpty = false) (source : τ) :
    key.canonicalInsert raw source =
      (.ok (key.canonicalFilter raw source).1, (key.canonicalFilter raw source).2) := by
  rw [canonicalInsert_eq, fields]
  rfl

/-- An update sorted by operators, whether or not it asks for anything. -/
def sortedUpdate (raw : Document) : StateM τ UpdateDocument :=
  raw.entries.foldlM key.addEntry .empty

/-- Each field of an update ends up under an operator. -/
theorem isEmpty_sortedUpdate (raw : Document) (source : τ) :
    (key.sortedUpdate raw source).1.isEmpty = raw.isEmpty := by
  rw [sortedUpdate, Fields.isEmpty]
  cases raw.entries with
  | nil => rfl
  | cons entry rest =>
      rw [Traversal.foldlM_cons, List.isEmpty_cons]
      refine Traversal.foldlM_invariant
        (fun update : UpdateDocument => update.isEmpty = false) ?_ rest _ _ ?_
      · intro update entry source _
        exact UpdateDocument.isEmpty_add _ _ _ _
      · exact UpdateDocument.isEmpty_add _ _ _ _

theorem canonicalUpdate_eq (raw : Document) (source : τ) :
    key.canonicalUpdate raw source =
      (if raw.isEmpty then .error .emptyUpdate else .ok (key.sortedUpdate raw source).1,
        (key.sortedUpdate raw source).2) := by
  rw [← key.isEmpty_sortedUpdate raw source]
  rfl

end PrimaryKey

namespace Session

variable (key : PrimaryKey τ)

/-- A document with fields as it is stored, behind its identifier. -/
def storedEntry (raw : Document) : StateM τ (Value × Document) := do
  BulkWrite.identify key.codec (← key.canonicalFilter raw)

/-- What is stored for raw documents: those that have fields, in their order. -/
def storedEntries (raws : List Document) : StateM τ (List (Value × Document)) :=
  (raws.filter fun raw => !raw.isEmpty).mapM (storedEntry key)

theorem stored?_of_isEmpty {raw : Document} (empty : raw.isEmpty = true) (source : τ) :
    stored? key raw source = (none, source) := by
  rw [Fields.isEmpty_iff.mp empty]
  rfl

theorem stored?_of_fields {raw : Document} (fields : raw.isEmpty = false) (source : τ) :
    stored? key raw source =
      (some (storedEntry key raw source).1, (storedEntry key raw source).2) := by
  simp only [stored?, bind, StateT.bind, key.canonicalInsert_of_fields fields]
  rfl

theorem storedEntries_cons_of_isEmpty {raw : Document} (empty : raw.isEmpty = true)
    (raws : List Document) (source : τ) :
    storedEntries key (raw :: raws) source = storedEntries key raws source := by
  rw [storedEntries, List.filter_cons_of_neg (by simp [empty])]
  rfl

theorem storedEntries_cons_of_fields {raw : Document} (fields : raw.isEmpty = false)
    (raws : List Document) (source : τ) :
    storedEntries key (raw :: raws) source =
      ((storedEntry key raw source).1 ::
          (storedEntries key raws (storedEntry key raw source).2).1,
        (storedEntries key raws (storedEntry key raw source).2).2) := by
  rw [storedEntries, List.filter_cons_of_pos (by simp [fields]), Traversal.mapM_cons]
  rfl

theorem storedEntries_of_all_isEmpty {raws : List Document}
    (empty : raws.all Fields.isEmpty = true) (source : τ) :
    storedEntries key raws source = ([], source) := by
  have none : raws.filter (fun raw => !raw.isEmpty) = [] := by
    simpa [List.filter_eq_nil_iff] using empty
  rw [storedEntries, none]
  rfl

/-- The documents without fields are left out, and the others are stored one after another. -/
theorem storedEntries_eq (raws : List Document) (source : τ) :
    storedEntries key raws source =
      ((raws.mapM (stored? key) source).1.filterMap id, (raws.mapM (stored? key) source).2) := by
  induction raws generalizing source with
  | nil => rfl
  | cons raw raws ih =>
      rw [Traversal.mapM_cons]
      cases empty : raw.isEmpty with
      | true =>
          rw [stored?_of_isEmpty key empty, storedEntries,
            List.filter_cons_of_neg (by simp [empty])]
          exact ih source
      | false =>
          rw [stored?_of_fields key empty, storedEntries, List.filter_cons_of_pos (by simp [empty]),
            Traversal.mapM_cons]
          exact congrArg (fun rest => ((storedEntry key raw source).1 :: rest.1, rest.2)) (ih _)

theorem isEmpty_storedEntries (raws : List Document) (source : τ) :
    (storedEntries key raws source).1.isEmpty = raws.all Fields.isEmpty := by
  rw [storedEntries, Traversal.isEmpty_mapM, Bool.eq_iff_iff, List.isEmpty_iff,
    List.filter_eq_nil_iff, List.all_eq_true]
  simp only [Bool.not_eq_true', Bool.not_eq_false]

end Session

end DocQuery
