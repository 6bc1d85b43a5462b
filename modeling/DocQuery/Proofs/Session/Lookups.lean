import DocQuery.Proofs.Key.ObjectIds
import DocQuery.Proofs.Session.StoredIdentifiers

/-!
# Looking documents up by the texts of their identifiers

A session that hands out identifiers as texts is asked for documents by these texts later, by this
session or by another one. Such a text names the identifier that it was made of, so the filter asks
for the document that was stored. If the text were not read back, nobody would notice: it would
count as a misspelt one, a new identifier would take its place, and the filter would match nothing.

Only object identifiers have texts that are read back. A document that is stored behind a number,
say, is told by the digits of the number, and these name no object identifier.
-/

namespace DocQuery

variable {σ τ : Type}

/-- A text under the primary key that names an identifier makes a filter of this identifier, and
leaves the source of identifiers as it is. -/
theorem PrimaryKey.canonicalFilter_of_read (key : PrimaryKey τ) {name raw : String} {id : Value}
    (named : Text.trim name = key.field) {source : τ}
    (read : key.codec.readOrMint raw source = (id, source)) :
    key.canonicalFilter (.singleton name (.string raw)) source =
      (.singleton key.field id, source) := by
  have written : (Fields.singleton name (Value.string raw)).entries = [(name, .string raw)] := rfl
  rw [canonicalFilter_eq, written, Traversal.mapM_cons, key.canonicalEntry_string named, read]
  rfl

namespace Connection

/-- What was told of a stored document finds it again, if its identifier is an object identifier: it
is a text, and as a filter under any spelling of `_id` it asks for this very identifier. No session
draws a new one for it. -/
def FindsAgain (connection : Connection σ τ) (document : Document) (told : Value) : Prop :=
  ∀ id, document.get? "_id" = some (.objectId id) →
    ∃ text, told = .string text ∧
      ∀ name, Text.trim name = "_id" → ∀ (session : Session) (shared : Shared σ τ),
        connection.set session (.filter (.singleton name (.string text))) shared =
          (session.edit (.filter (.singleton "_id" (.objectId id))), shared)

section

variable {connection : Connection σ τ} {next : τ → ObjectId × τ}
  (objects : connection.codec = .objectId next) (named : connection.config.primaryKey = "_id")

include objects named

theorem set_filter_toText (id : ObjectId) {name : String} (spelt : Text.trim name = "_id")
    (session : Session) (shared : Shared σ τ) :
    connection.set session
        (.filter (.singleton name (.string (connection.codec.toText (.objectId id))))) shared =
      (session.edit (.filter (.singleton "_id" (.objectId id))), shared) := by
  have field : connection.primaryKey.field = "_id" := named
  have read : connection.primaryKey.codec.readOrMint
      (connection.codec.toText (.objectId id)) shared.source = (.objectId id, shared.source) := by
    change connection.codec.readOrMint _ _ = _
    rw [objects]
    exact Codec.readOrMint_toText_objectId next id shared.source
  have canonical := connection.primaryKey.canonicalFilter_of_read (spelt.trans field.symm) read
  rw [field] at canonical
  simp only [set, onSource, Session.set, Setting.toEdit, Functor.map, StateT.map, canonical]
  rfl

/-- A session that hands out texts hands out the ones that find their documents. -/
theorem findsAgain_of_presents {session : Session} (wordy : session.options.idsAsText = true)
    {document : Document} {told : Value}
    (presents : session.Presents connection.codec document told) :
    connection.FindsAgain document told := by
  obtain ⟨own, there, rfl⟩ := presents
  intro id stored
  obtain rfl := Option.some.inj (there.symm.trans stored)
  refine ⟨connection.codec.toText (.objectId id), ?_, ?_⟩
  · rw [Session.present, wordy]
    rfl
  · intro name spelt later shared
    exact set_filter_toText objects named id spelt later shared

/-- What a session tells of the documents that it has stored, where it hands out identifiers as
texts, finds each one again that has an object identifier: however its identifier came about, under
any spelling of `_id`, and without a new identifier being drawn. -/
theorem told_texts_find {session : Session} (wordy : session.options.idsAsText = true)
    (shared : Shared σ τ) :
    (∀ raw id, (connection.perform session (.insertGetId raw) shared).1.1 = .ok id →
      ∃ document, connection.StoresBy session shared (.insertGetId raw) [raw] [document] ∧
        connection.FindsAgain document id) ∧
    ∀ raws answer, (connection.perform session (.insertAll raws) shared).1.1 = .ok answer →
      ∃ documents, connection.StoresBy session shared (.insertAll raws) raws documents ∧
        List.Forall₂ connection.FindsAgain documents answer.ids := by
  constructor
  · intro raw id answered
    obtain ⟨document, stores, presents⟩ :=
      connection.exists_presents_insertGetId session shared answered
    exact ⟨document, stores, findsAgain_of_presents objects named wordy presents⟩
  · intro raws answer answered
    obtain ⟨documents, stores, presents⟩ :=
      connection.exists_presents_insertAll session shared answered
    exact ⟨documents, stores, presents.imp fun _ _ => findsAgain_of_presents objects named wordy⟩

end

/-- Five documents: one is given an identifier as a text, one as it is, one a text that names none,
one nothing, and one a number, which has a text that no filter reads back. -/
theorem told_texts_find_five :
    let session := (recordedConnection.collection "users").edit (.idsAsText true)
    let shared : Shared Recorder Nat := ⟨{}, 0, none⟩
    let raws : List Document :=
      [.singleton " _id" (.string "5D71c5415c998d3dc4006832"),
        .singleton "_id" (.objectId (.ofNat 258)), .singleton "_id " (.string "ann"),
        .singleton "name" (.string "Ann"), .singleton "_id" (.int32 7)]
    let answer : InsertedMany :=
      ⟨5, [.string "5d71c5415c998d3dc4006832", .string "000000000000000000000102",
        .string "000000000000000000000001", .string "000000000000000000000002", .string "7"]⟩
    recordedConnection.codec = .objectId (fun given => (.ofNat (given + 1), given + 1)) ∧
      recordedConnection.config.primaryKey = "_id" ∧ session.options.idsAsText = true ∧
      (recordedConnection.perform session (.insertAll raws) shared).1.1 = .ok answer ∧
      ∃ documents,
        recordedConnection.StoresBy session shared (.insertAll raws) raws documents ∧
          List.Forall₂ recordedConnection.FindsAgain documents answer.ids := by
  intro session shared raws answer
  have objects : recordedConnection.codec =
      .objectId (fun given => (.ofNat (given + 1), given + 1)) := rfl
  have named : recordedConnection.config.primaryKey = "_id" := rfl
  have wordy : session.options.idsAsText = true := rfl
  have answered :
      (recordedConnection.perform session (.insertAll raws) shared).1.1 = .ok answer := by
    have texts : answer.ids = [Value.objectId (.ofNat 0x5d71c5415c998d3dc4006832),
        .objectId (.ofNat 258), .objectId (.ofNat 1), .objectId (.ofNat 2), .int32 7].map
          fun id => .string (recordedConnection.codec.toText id) := by
      have first : recordedConnection.codec.toText
          (.objectId (.ofNat 0x5d71c5415c998d3dc4006832)) = "5d71c5415c998d3dc4006832" := by
        decide +kernel
      have second : recordedConnection.codec.toText (.objectId (.ofNat 258)) =
          "000000000000000000000102" := by decide +kernel
      have third : recordedConnection.codec.toText (.objectId (.ofNat 1)) =
          "000000000000000000000001" := by decide +kernel
      have fourth : recordedConnection.codec.toText (.objectId (.ofNat 2)) =
          "000000000000000000000002" := by decide +kernel
      have fifth : recordedConnection.codec.toText (.int32 7) = "7" := by decide +kernel
      simp only [List.map_cons, List.map_nil, first, second, third, fourth, fifth, answer]
    have whole : answer = ⟨5, answer.ids⟩ := rfl
    rw [whole, texts]
    rfl
  obtain ⟨-, found⟩ := told_texts_find objects named wordy shared
  exact ⟨objects, named, wordy, answered, found raws answer answered⟩

end Connection

end DocQuery
