import DocQuery.Proofs.Key.Canonical
import DocQuery.Proofs.Session.Requests

/-!
# Texts under the primary key

A text under the primary key is meant to be an identifier, and canonical documents hold the
identifier in its place: however the name of the field was written, whichever of several fields with
one name comes last, and under whatever operator of an update the text stands.

All this needs a primary key whose name has no blanks around it. Names of fields lose the blanks
around them before they are compared with the name of the primary key, which keeps its own. A
configuration with such a name is accepted, and then no field is ever taken for the primary key: the
texts stay, and the identifiers that they spell match nothing.
-/

namespace DocQuery

variable {σ τ : Type}

structure Codec.Textless (codec : Codec τ) : Prop where
  ofText : ∀ raw s, codec.ofText raw ≠ .ok (.string s)
  mint : ∀ source s, (codec.mint source).1 ≠ .string s

theorem Codec.textless_objectId (next : τ → ObjectId × τ) : (Codec.objectId next).Textless where
  ofText raw s := by
    simp only [Codec.objectId, objectIdOfText]
    split <;> simp
  mint source s := by simp [Codec.objectId]

/-- What a text is made into is no text. -/
theorem Codec.Textless.readOrMint_ne {codec : Codec τ} (textless : codec.Textless) (raw : String)
    (source : τ) (s : String) : (codec.readOrMint raw source).1 ≠ .string s := by
  rw [readOrMint]
  cases read : codec.ofText raw with
  | ok id =>
      rintro rfl
      exact textless.ofText raw s read
  | error fault => exact textless.mint source s

/-- No text stands under a name in a document. -/
def Fields.Clear (document : Document) (name : String) : Prop :=
  ∀ s, (name, .string s) ∉ document.entries

/-- No text stands under a name among the operands of an update. -/
def UpdateDocument.Clear (update : UpdateDocument) (name : String) : Prop :=
  ∀ operator ∈ update.operators.entries, operator.2.Clear name

/-- Adding an operand that is no text under the name brings no text under it. -/
theorem UpdateDocument.Clear.add {update : UpdateDocument} {name : String}
    (clear : update.Clear name) (operator : String) {field : String} {operand : Value}
    (added : ∀ s, (name, Value.string s) ≠ (field, operand)) :
    (update.add operator field operand).Clear name := by
  intro entry member s inside
  rcases Fields.mem_entries_insert member with rfl | old
  · rcases Fields.mem_entries_insert inside with new | before
    · exact added s new
    · cases found : update.operators.get? operator with
      | none =>
          rw [found] at before
          exact List.not_mem_nil before
      | some fields =>
          rw [found] at before
          exact clear _ (Fields.mem_entries_of_get? found) s before
  · exact clear entry old s inside

namespace PrimaryKey

variable (key : PrimaryKey τ)

/-- No text stands under a name in the canonical forms of a raw document: as a filter, as a document
to be inserted, or under any operator of an update. -/
structure Clears (source : τ) (raw : Document) (name : String) : Prop where
  filter : (key.canonicalFilter raw source).1.Clear name
  insert : ∀ document, (key.canonicalInsert raw source).1 = .ok document → document.Clear name
  update : ∀ update, (key.canonicalUpdate raw source).1 = .ok update →
    ∀ operator fields, (operator, .document fields) ∈ update.toDocument.entries →
      Fields.Clear fields name

variable {key}

theorem canonicalValue_ne (textless : key.codec.Textless) (value : Value) (source : τ)
    (s : String) : (key.canonicalValue key.field value source).1 ≠ .string s := by
  cases value with
  | string raw =>
      rw [canonicalValue, if_pos rfl]
      exact textless.readOrMint_ne raw source s
  | _ => exact Value.noConfusion

theorem clear_canonicalFilter (textless : key.codec.Textless) (raw : Document) (source : τ) :
    (key.canonicalFilter raw source).1.Clear key.field := by
  intro s member
  obtain ⟨entry, -, between, made⟩ :=
    Traversal.exists_of_mem_mapM (Fields.mem_entries_ofList member)
  have named : Text.trim entry.1 = key.field := congrArg Prod.fst made
  have stands : (key.canonicalValue (Text.trim entry.1) entry.2 between).1 = .string s :=
    congrArg Prod.snd made
  rw [named] at stands
  exact canonicalValue_ne textless entry.2 between s stands

theorem clear_addEntry (textless : key.codec.Textless) {update : UpdateDocument}
    (clear : update.Clear key.field) (entry : String × Value) (source : τ) :
    (key.addEntry update entry source).1.Clear key.field := by
  refine clear.add (FieldUpdate.ofValue entry.2).parts.1 ?_
  intro s same
  obtain ⟨named, stands⟩ := Prod.mk.inj same
  rw [← named] at stands
  exact canonicalValue_ne textless _ source s stands.symm

theorem clear_sortedUpdate (textless : key.codec.Textless) (raw : Document) (source : τ) :
    (key.sortedUpdate raw source).1.Clear key.field :=
  Traversal.foldlM_invariant (UpdateDocument.Clear · key.field)
    (fun _ entry source clear => clear_addEntry textless clear entry source) raw.entries .empty
    source fun _ member => absurd member List.not_mem_nil

/-- Whatever a raw document says, no text remains under the name that fields are compared with. -/
theorem clears_field (textless : key.codec.Textless) (source : τ) (raw : Document) :
    key.Clears source raw key.field where
  filter := clear_canonicalFilter textless raw source
  insert := by
    intro document accepted
    rw [canonicalInsert_eq] at accepted
    split at accepted
    · contradiction
    · cases accepted
      exact clear_canonicalFilter textless raw source
  update := by
    intro update accepted operator fields member
    rw [canonicalUpdate_eq] at accepted
    split at accepted
    · contradiction
    · cases accepted
      obtain ⟨sorted, inside, same⟩ := List.mem_map.mp member
      cases same
      exact clear_sortedUpdate textless raw source sorted inside

/-- A name with blanks around it is the name of no field, not even of one that is written the
same. -/
theorem canonicalFilter_of_blanks (key : PrimaryKey τ) (blanks : Text.trim key.field ≠ key.field)
    (s : String) (source : τ) :
    (key.canonicalFilter (.singleton key.field (.string s)) source).1 =
      .singleton (Text.trim key.field) (.string s) := by
  have entry : key.canonicalEntry (key.field, .string s) source =
      ((Text.trim key.field, .string s), source) :=
    key.canonicalEntry_of_other (fun named => absurd named blanks) source
  have written : (Fields.singleton key.field (Value.string s)).entries =
      [(key.field, .string s)] := rfl
  rw [canonicalFilter_eq, written, Traversal.mapM_cons, entry]
  rfl

end PrimaryKey

namespace Connection

/-- Whatever is written under the primary key of a connection, no text remains there, if and only if
the configured name has no blanks around it. -/
theorem clears_iff_trimmed {connection : Connection σ τ} (textless : connection.codec.Textless)
    (source : τ) :
    (∀ raw, connection.primaryKey.Clears source raw (Text.trim connection.config.primaryKey)) ↔
      Text.trim connection.config.primaryKey = connection.config.primaryKey := by
  constructor
  · intro clears
    refine Decidable.byContradiction fun blanks => ?_
    have stays := connection.primaryKey.canonicalFilter_of_blanks blanks "ann" source
    have kept := (clears (.singleton connection.primaryKey.field (.string "ann"))).filter
    rw [stays] at kept
    exact kept "ann" List.mem_cons_self
  · intro trimmed raw
    rw [trimmed]
    exact PrimaryKey.clears_field textless source raw

/-- The name may be written with blanks in the document. A text that spells no identifier is
replaced too, and of the two values the last one stays. -/
theorem clears_iff_trimmed_recorded :
    let raw : Document := ⟨[(" _id", .string "ann"), ("_id ", .string "bob")]⟩
    recordedConnection.codec.Textless ∧
      recordedConnection.primaryKey.Clears 0 raw "_id" ∧
      (recordedConnection.primaryKey.canonicalFilter raw 0).1.get? "_id" =
        some (.objectId (.ofNat 2)) := by
  intro raw
  have textless : recordedConnection.codec.Textless := Codec.textless_objectId _
  exact ⟨textless, (clears_iff_trimmed textless 0).mpr (by decide +kernel) raw, rfl⟩

/-- A name with blanks around it is accepted, and a text that spells an identifier stays a text. -/
theorem exists_text_under_key :
    ∃ connection : Connection Recorder Nat,
      Connection.establish Recorder.executor .counting
          { database := "app", primaryKey := " id " } = .ok connection ∧
        connection.codec.Textless ∧
        (connection.set (connection.collection "users")
          (.filter (.singleton "id" (.string "5d71c5415c998d3dc4006832")))
          ⟨{}, 0, none⟩).1.options.filter.get? (Text.trim connection.config.primaryKey) =
            some (.string "5d71c5415c998d3dc4006832") := by
  have flawless : ({ database := "app", primaryKey := " id " } : Config).flaw? = none := by decide
  refine ⟨⟨Recorder.executor, .counting, _, flawless⟩, rfl, Codec.textless_objectId _, ?_⟩
  have trimmed : Text.trim " id " = "id" := by decide +kernel
  rw [trimmed]
  rfl

end Connection

end DocQuery
