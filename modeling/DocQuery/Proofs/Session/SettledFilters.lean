import DocQuery.Proofs.Key.Drawings
import DocQuery.Proofs.Key.Identifiers
import DocQuery.Proofs.Session.Outcome
import DocQuery.Proofs.Text.Blank

/-!
# Canonical forms of canonical documents

Canonical documents are settled: they are brought into canonical form by being left as they are, and
no identifier is drawn for them. Their names have lost their blanks and stand once, so that no two
of them become one name. Under the primary key there are identifiers where there were texts, and an
identifier is not read again.

This takes a codec whose identifiers are no texts. Otherwise an identifier that stands in the place
of a text is a text itself, and would be read, or replaced, once more.

The filter of a session is settled at any time. So it may be written to the session again, or to
another one, and stays the same filter.
-/

namespace DocQuery

variable {σ τ : Type}

namespace PrimaryKey

variable (key : PrimaryKey τ)

/-- A field that has its canonical form: no blanks are left to be taken away, and no text is left to
be read. -/
structure Fixes (entry : String × Value) : Prop where
  trimmed : Text.trim entry.1 = entry.1
  other : entry.1 = key.field → ∀ raw, entry.2 ≠ .string raw

/-- A document that is its own canonical form, whatever the source of identifiers. Nothing is drawn
for it. -/
structure Settled (document : Document) : Prop where
  same : ∀ source, key.canonicalFilter document source = (document, source)
  undrawn : ∀ {drawings canonical}, key.Canonizes document.entries drawings canonical →
    drawings = []

variable {key}

theorem Fixes.canonicalEntry {entry : String × Value} (fixes : key.Fixes entry) (source : τ) :
    key.canonicalEntry entry source = (entry, source) := by
  obtain ⟨name, value⟩ := entry
  have trimmed : Text.trim name = name := fixes.trimmed
  have other : Text.trim name = key.field → ∀ raw, value ≠ .string raw := by
    rw [trimmed]
    exact fixes.other
  rw [key.canonicalEntry_of_other other, trimmed]

/-- Nothing is drawn for fields that have their canonical form. -/
theorem Canonizes.eq_nil_of_fixes {entries canonical : List (String × Value)}
    {drawings : List Drawing} (canonizes : key.Canonizes entries drawings canonical)
    (fixes : ∀ entry ∈ entries, key.Fixes entry) : drawings = [] := by
  induction canonizes with
  | nil => rfl
  | @replace name raw _ _ _ _ named _ _ _ _ =>
      -- The name has no blanks, so it is the primary key itself, and there is no text under it.
      have first : key.Fixes (name, .string raw) := fixes _ List.mem_cons_self
      exact absurd rfl (first.other (first.trimmed.symm.trans named) raw)
  | read _ _ _ ih => exact ih (List.forall_mem_cons.mp fixes).2
  | keep _ _ ih => exact ih (List.forall_mem_cons.mp fixes).2

theorem settled_of_fixes {document : Document} (distinct : document.names.Nodup)
    (fixes : ∀ entry ∈ document.entries, key.Fixes entry) : key.Settled document where
  same source := by
    have entries := Traversal.mapM_of_fixed (fun entry member => (fixes entry member).canonicalEntry)
      source
    rw [canonicalFilter_eq, entries, Fields.ofList_of_nodup distinct]
  undrawn canonizes := canonizes.eq_nil_of_fixes fixes

theorem settled_empty : key.Settled ∅ :=
  settled_of_fixes List.nodup_nil fun _ member => absurd member List.not_mem_nil

section

variable (textless : key.codec.Textless)

include textless

/-- What stands in a canonical form has its own canonical form. -/
theorem fixes_of_mem_canonicalFilter {raw : Document} {source : τ} {entry : String × Value}
    (member : entry ∈ (key.canonicalFilter raw source).1.entries) : key.Fixes entry where
  trimmed := by
    obtain ⟨written, -, between, rfl⟩ :=
      Traversal.exists_of_mem_mapM (Fields.mem_entries_ofList member)
    exact Text.trim_trim written.1
  other := by
    intro named s text
    obtain rfl : entry = (key.field, .string s) := Prod.ext named text
    exact clear_canonicalFilter textless raw source s member

theorem settled_canonicalFilter (raw : Document) (source : τ) :
    key.Settled (key.canonicalFilter raw source).1 :=
  settled_of_fixes (key.nodup_names_canonicalFilter raw source) fun _ member =>
    fixes_of_mem_canonicalFilter textless member

/-- A document that is accepted for insertion is accepted again, as it is. -/
theorem settled_canonicalInsert {raw document : Document} {source : τ}
    (accepted : (key.canonicalInsert raw source).1 = .ok document) :
    key.Settled document ∧
      ∀ later, key.canonicalInsert document later = (.ok document, later) := by
  rw [canonicalInsert_eq] at accepted
  split at accepted
  case isTrue => contradiction
  case isFalse fields =>
    cases accepted
    have settled := settled_canonicalFilter textless raw source
    have kept : (key.canonicalFilter raw source).1.isEmpty = false := by
      rw [isEmpty_canonicalFilter]
      exact Bool.eq_false_iff.mpr fields
    refine ⟨settled, fun later => ?_⟩
    rw [key.canonicalInsert_of_fields kept, settled.same]

end

end PrimaryKey

namespace Connection

section

variable {connection : Connection σ τ}

/-- A settled filter that a session has already is put there without any change. -/
theorem set_filter_of_settled {session : Session}
    (settled : connection.primaryKey.Settled session.options.filter) (shared : Shared σ τ) :
    connection.set session (.filter session.options.filter) shared = (session, shared) := by
  simp only [set, onSource, Session.set, Setting.toEdit, Functor.map, StateT.map, settled.same]
  rfl

variable (textless : connection.codec.Textless)

include textless

/-- A setting puts a canonical form into the place of the filter, or nothing, or keeps it. -/
theorem settled_set {session : Session}
    (settled : connection.primaryKey.Settled session.options.filter) (setting : Setting)
    (shared : Shared σ τ) :
    connection.primaryKey.Settled (connection.set session setting shared).1.options.filter := by
  cases setting with
  | filter raw => exact PrimaryKey.settled_canonicalFilter textless raw shared.source
  | remove key => cases key <;> first | exact settled | exact PrimaryKey.settled_empty
  | reset => exact PrimaryKey.settled_empty
  | field selection => exact settled
  | sort document => exact settled
  | group document => exact settled
  | limit n => exact settled
  | skip n => exact settled
  | upsert b => exact settled
  | idsAsText b => exact settled

/-- A session never has a filter that is not settled. -/
theorem Reaches.settled {session : Session} (reached : connection.Reaches session) :
    connection.primaryKey.Settled session.options.filter := by
  apply reached.options_induction (connection.primaryKey.Settled ·.filter)
  · exact PrimaryKey.settled_empty
  · intro session setting shared settled
    exact settled_set textless settled setting shared

/-- Canonical forms are their own canonical forms, as filters and as documents to be inserted, and
no identifiers are drawn for them. A session that is given its own filter stays as it is. -/
theorem canonical_forms_settle :
    (∀ raw source,
      connection.primaryKey.Settled (connection.primaryKey.canonicalFilter raw source).1) ∧
    (∀ raw source document,
      (connection.primaryKey.canonicalInsert raw source).1 = .ok document →
        connection.primaryKey.Settled document ∧
          ∀ later, connection.primaryKey.canonicalInsert document later = (.ok document, later)) ∧
    ∀ session, connection.Reaches session → ∀ shared : Shared σ τ,
      connection.set session (.filter session.options.filter) shared = (session, shared) := by
  refine ⟨?_, ?_, ?_⟩
  · intro raw source
    exact PrimaryKey.settled_canonicalFilter textless raw source
  · intro raw source document accepted
    exact PrimaryKey.settled_canonicalInsert textless accepted
  · intro session reached shared
    exact set_filter_of_settled (reached.settled textless) shared

end

/-- Two texts under the primary key draw two identifiers, of which the second one stays. It is not
drawn again. -/
theorem canonical_forms_settle_recorded :
    let raw : Document :=
      ⟨[(" _id", .string "ann"), ("name ", .string " Ann"), ("_id", .string "bob")]⟩
    let document : Document := ⟨[("_id", .objectId (.ofNat 2)), ("name", .string " Ann")]⟩
    let shared : Shared Recorder Nat := ⟨{}, 0, none⟩
    let filtered := recordedConnection.set (recordedConnection.collection "users") (.filter raw)
      shared
    recordedConnection.codec.Textless ∧
      recordedConnection.primaryKey.canonicalFilter raw 0 = (document, 2) ∧
      recordedConnection.primaryKey.canonicalInsert raw 0 = (.ok document, 2) ∧
      recordedConnection.primaryKey.Settled document ∧
      recordedConnection.primaryKey.canonicalInsert document 2 = (.ok document, 2) ∧
      filtered.2.source = 2 ∧
      recordedConnection.set filtered.1 (.filter filtered.1.options.filter) filtered.2 =
        filtered := by
  intro raw document shared filtered
  have textless : recordedConnection.codec.Textless := Codec.textless_objectId _
  have accepted : recordedConnection.primaryKey.canonicalInsert raw 0 = (.ok document, 2) := rfl
  have reached : recordedConnection.Reaches filtered.1 := (Reaches.collection "users").set _ _
  obtain ⟨filters, inserts, sessions⟩ := canonical_forms_settle textless
  have settled : recordedConnection.primaryKey.Settled document := filters raw 0
  obtain ⟨-, again⟩ := inserts raw 0 document (congrArg Prod.fst accepted)
  exact ⟨textless, rfl, accepted, settled, again 2, rfl, sessions filtered.1 reached filtered.2⟩

end Connection

end DocQuery
