import DocQuery.Proofs.Session.Drawings

/-!
# Identifiers that inserts return

An insert returns the identifiers of the documents as they are stored, and that is what stands under
`_id` in them. It is not what stands under the configured primary key: the configuration says which
texts are read as identifiers and which field is left out of rows, and the field by which the server
knows a document has a name of its own. Only where the configuration gives that name to the primary
key, as it does by default, the two are the same.
-/

namespace DocQuery

variable {σ τ : Type}

/-- A session that hands identifiers out as they are tells what stands in the document. -/
theorem Session.Presents.get?_of_plain {session : Session} {codec : Codec τ} {document : Document}
    {id : Value} (presents : session.Presents codec document id)
    (plain : session.options.idsAsText = false) : document.get? "_id" = some id := by
  obtain ⟨own, there, rfl⟩ := presents
  rw [there, present, plain]
  rfl

namespace Connection

variable (connection : Connection σ τ) (session : Session) (shared : Shared σ τ)

/-- An operation stores documents for raw ones, and sends nothing else. -/
structure StoresBy (operation : Operation) (raws documents : List Document) : Prop where
  stores : Stores connection.primaryKey raws shared.source documents
    (connection.perform session operation shared).2.source
  requests : connection.requests (·.perform session operation) shared =
    [.bulkWrite ((Write.insert documents).bulk session.target connection.config.writeConcern)]

variable {operation : Operation}

/-- What is stored for the documents of an accepted insert. -/
theorem storesBy_storedEntries {raws : List Document} (inserts : operation.intent = .insert raws)
    (accepted : session.verdict? operation = none) :
    connection.StoresBy session shared operation raws
      ((Session.storedEntries connection.primaryKey raws shared.source).1.map Prod.snd) where
  stores := by
    rw [connection.source_of_accepted session shared accepted, inserts]
    exact Session.stores_storedEntries connection.primaryKey raws shared.source
  requests := by
    rw [requests_perform]
    apply connection.operationRequests_of_write? session accepted
    rw [inserts]
    rfl

/-- A planned write that is answered had no fault, and its answer is made of a reply. -/
theorem exists_result_of_ok {fault? : Option Fault} {write : Write} {ids : Option InsertedIds}
    {answer : WriteResult → operation.Answer} {given : operation.Answer}
    (planned : (session.plan connection.config connection.primaryKey operation shared.source).1 =
      Plan.unless fault? (.write write ids answer))
    (answered : (connection.perform session operation shared).1.1 = .ok given) :
    fault? = none ∧ ∃ result, given = answer result := by
  cases fault? with
  | some fault =>
      have refused := congrArg Prod.fst (connection.perform_of_done session planned).1
      exact nomatch answered.symm.trans refused
  | none =>
      have asked : (onSource (session.plan connection.config connection.primaryKey operation)
        shared).1 = .write write ids answer := planned
      refine ⟨rfl, ?_⟩
      simp only [perform_eq, asked] at answered
      have replied := (connection.carryOut_write_eq session write ids answer
        (onSource (session.plan connection.config connection.primaryKey operation) shared).2).1
      have mapped := replied.symm.trans answered
      generalize connection.executor.answer _ _ = reply at mapped
      obtain ⟨result, after⟩ := reply
      cases result with
      | error fault => contradiction
      | ok result => exact ⟨result, (Except.ok.inj mapped).symm⟩

/-- A single insert that succeeds has stored its document and tells the identifier in it. -/
theorem exists_presents_insertGetId {raw : Document} {id : Value}
    (answered : (connection.perform session (.insertGetId raw) shared).1.1 = .ok id) :
    ∃ document, connection.StoresBy session shared (.insertGetId raw) [raw] [document] ∧
      session.Presents connection.codec document id := by
  have planned : (session.plan connection.config connection.primaryKey (.insertGetId raw)
      shared.source).1 = Plan.unless _ (.write _ _ _) :=
    session.planInsert_eq connection.primaryKey shared.source raw fun _ id => id
  obtain ⟨faultless, result, rfl⟩ := connection.exists_result_of_ok session shared planned answered
  have accepted : session.verdict? (.insertGetId raw) = none := Option.map_eq_none_iff.mpr faultless
  have stores := connection.storesBy_storedEntries session shared rfl accepted
  have presents := Session.forall₂_present connection.primaryKey session [raw] shared.source
  rw [Session.storedEntries_cons_of_fields connection.primaryKey
    (session.isEmpty_of_faultless faultless)] at stores presents
  exact ⟨_, stores, (List.forall₂_cons.mp presents).1⟩

/-- An insert of several documents that succeeds has stored them and tells their identifiers, each
at the place of its document. -/
theorem exists_presents_insertAll {raws : List Document} {answer : InsertedMany}
    (answered : (connection.perform session (.insertAll raws) shared).1.1 = .ok answer) :
    ∃ documents, connection.StoresBy session shared (.insertAll raws) raws documents ∧
      List.Forall₂ (session.Presents connection.codec) documents answer.ids := by
  have planned : (session.plan connection.config connection.primaryKey (.insertAll raws)
      shared.source).1 = Plan.unless _ (.write _ _ _) :=
    session.planInsertAll_eq connection.primaryKey shared.source raws
  obtain ⟨faultless, result, rfl⟩ := connection.exists_result_of_ok session shared planned answered
  have accepted : session.verdict? (.insertAll raws) = none := Option.map_eq_none_iff.mpr faultless
  exact ⟨_, connection.storesBy_storedEntries session shared rfl accepted,
    Session.forall₂_present connection.primaryKey session raws shared.source⟩

/-- Whatever the configuration says, the identifiers that a successful insert returns are those
under `_id` in the documents that it has stored, each at the place of its document. -/
theorem inserts_return_ids (connection : Connection σ τ) {session : Session}
    (plain : session.options.idsAsText = false) (shared : Shared σ τ) :
    (∀ raw id, (connection.perform session (.insertGetId raw) shared).1.1 = .ok id →
      ∃ document, connection.StoresBy session shared (.insertGetId raw) [raw] [document] ∧
        document.get? "_id" = some id) ∧
    ∀ raws answer, (connection.perform session (.insertAll raws) shared).1.1 = .ok answer →
      ∃ documents, connection.StoresBy session shared (.insertAll raws) raws documents ∧
        List.Forall₂ (fun document id => document.get? "_id" = some id) documents answer.ids := by
  refine ⟨?_, ?_⟩
  · intro raw id answered
    obtain ⟨document, stores, presents⟩ :=
      connection.exists_presents_insertGetId session shared answered
    exact ⟨document, stores, presents.get?_of_plain plain⟩
  · intro raws answer answered
    obtain ⟨documents, stores, presents⟩ :=
      connection.exists_presents_insertAll session shared answered
    exact ⟨documents, stores, presents.imp fun _ _ told => told.get?_of_plain plain⟩

/-- The first document has a text under `_id` that spells no identifier, the second one has no
identifier. -/
theorem inserts_return_ids_of_two :
    let session := recordedConnection.collection "users"
    let shared : Shared Recorder Nat := ⟨{}, 0, none⟩
    let raws : List Document :=
      [.singleton " _id" (.string "ann"), .singleton "name" (.string "Ann")]
    let answer : InsertedMany := ⟨2, [.objectId (.ofNat 1), .objectId (.ofNat 2)]⟩
    session.options.idsAsText = false ∧
      (recordedConnection.perform session (.insertAll raws) shared).1.1 = .ok answer ∧
      ∃ documents,
        recordedConnection.StoresBy session shared (.insertAll raws) raws documents ∧
          List.Forall₂ (fun document id => document.get? "_id" = some id) documents answer.ids := by
  intro session shared raws answer
  have plain : session.options.idsAsText = false := rfl
  have answered : (recordedConnection.perform session (.insertAll raws) shared).1.1 = .ok answer :=
    rfl
  obtain ⟨-, returned⟩ := inserts_return_ids recordedConnection plain shared
  exact ⟨plain, answered, returned raws answer answered⟩

/-- Where the primary key has another name, the identifier that an insert returns need not be the
one that the document holds under it. -/
theorem exists_id_beside_key :
    ∃ connection : Connection Recorder Nat,
      Connection.establish Recorder.executor .counting
          { database := "app", primaryKey := "uid" } = .ok connection ∧
        let session := connection.collection "users"
        let shared : Shared Recorder Nat := ⟨{}, 0, none⟩
        let insert : Operation :=
          .insertGetId (.singleton "uid" (.string "5d71c5415c998d3dc4006832"))
        let document : Document :=
          ⟨[("_id", .objectId (.ofNat 1)), ("uid", .objectId (.ofNat 0x5d71c5415c998d3dc4006832))]⟩
        session.options.idsAsText = false ∧
          connection.requests (·.perform session insert) shared =
            [.bulkWrite ((Write.insert [document]).bulk ⟨"app", "users"⟩ none)] ∧
          (connection.perform session insert shared).1.1 = .ok (Value.objectId (.ofNat 1)) ∧
          document.get? connection.config.primaryKey ≠ some (.objectId (.ofNat 1)) := by
  have flawless : ({ database := "app", primaryKey := "uid" } : Config).flaw? = none := by decide
  refine ⟨⟨Recorder.executor, .counting, _, flawless⟩, rfl, rfl, rfl, rfl, ?_⟩
  intro same
  have equal : ObjectId.ofNat 0x5d71c5415c998d3dc4006832 = .ofNat 1 :=
    Value.objectId.inj (Option.some.inj same)
  exact absurd equal (by decide)

end Connection

end DocQuery
