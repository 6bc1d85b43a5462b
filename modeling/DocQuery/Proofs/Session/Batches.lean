import DocQuery.Proofs.Document.Fields
import DocQuery.Proofs.Session.Guards
import DocQuery.Proofs.Session.Intents
import DocQuery.Proofs.Session.Outcome
import Mathlib.Data.List.Forall2

/-!
# Batches of documents

An insert of several documents stores each one that has fields, once and in their order, and tells
their identifiers in the same order. Three lists are kept next to each other on the way: the
documents that were given, those that are stored, and the identifiers. New identifiers are drawn for
two reasons, for a text under the primary key that names none, and for a document that has none.
What is stored is described one document after another, each with the state in which the one before
it has left the source of identifiers.

The insert of a single document is such a batch, for the server as well as in the diagnostics.
-/

namespace DocQuery

variable {σ τ : Type}

/-! ## Documents that are stored -/

/-- The document that is stored for a canonical one: the document itself if it has an identifier,
and otherwise all its fields in their order, behind a new identifier. -/
inductive Identifies (codec : Codec τ) (document : Document) : τ → Document → τ → Prop where
  | own {source : τ} {id : Value} (there : document.get? "_id" = some id) :
      Identifies codec document source document source
  | new {source : τ} (missing : document.get? "_id" = none) :
      Identifies codec document source ⟨("_id", (codec.mint source).1) :: document.entries⟩
        (codec.mint source).2

/-- The documents that are stored for raw ones: one for each that has fields, in their order, where
new identifiers are drawn from a source one after another. -/
inductive Stores (key : PrimaryKey τ) : List Document → τ → List Document → τ → Prop where
  | nil (source : τ) : Stores key [] source [] source
  | skip {raw : Document} {raws documents : List Document} {source after : τ}
      (empty : raw.isEmpty = true) (rest : Stores key raws source documents after) :
      Stores key (raw :: raws) source documents after
  | store {raw document stored : Document} {raws documents : List Document}
      {source between next after : τ} (fields : raw.isEmpty = false)
      (canonical : key.canonicalInsert raw source = (.ok document, between))
      (identified : Identifies key.codec document between stored next)
      (rest : Stores key raws next documents after) :
      Stores key (raw :: raws) source (stored :: documents) after

theorem Identifies.unique {codec : Codec τ} {document a b : Document} {source x y : τ}
    (first : Identifies codec document source a x) (second : Identifies codec document source b y) :
    a = b ∧ x = y := by
  cases first with
  | own there =>
      cases second with
      | own _ => exact ⟨rfl, rfl⟩
      | new missing => exact absurd (there.symm.trans missing) (Option.some_ne_none _)
  | new missing =>
      cases second with
      | own there => exact absurd (there.symm.trans missing) (Option.some_ne_none _)
      | new _ => exact ⟨rfl, rfl⟩

/-- There is one way to store documents. -/
theorem Stores.unique {key : PrimaryKey τ} {raws as bs : List Document} {source x y : τ}
    (first : Stores key raws source as x) (second : Stores key raws source bs y) :
    as = bs ∧ x = y := by
  induction first generalizing bs y with
  | nil source =>
      cases second
      exact ⟨rfl, rfl⟩
  | skip empty _ ih =>
      cases second with
      | skip _ rest => exact ih rest
      | store fields _ _ _ => exact absurd (empty.symm.trans fields) Bool.noConfusion
  | store fields canonical identified _ ih =>
      cases second with
      | skip empty _ => exact absurd (empty.symm.trans fields) Bool.noConfusion
      | store _ canonical' identified' rest =>
          obtain ⟨document, between⟩ := Prod.mk.inj (canonical.symm.trans canonical')
          cases document
          cases between
          obtain ⟨rfl, rfl⟩ := identified.unique identified'
          obtain ⟨rfl, rfl⟩ := ih rest
          exact ⟨rfl, rfl⟩

/-- An identifier is told of a stored document: it is the one in the document, as the session hands
it out. -/
def Session.Presents (session : Session) (codec : Codec τ) (document : Document) (id : Value) :
    Prop :=
  ∃ own, document.get? "_id" = some own ∧ id = session.present codec own

namespace BulkWrite

variable (codec : Codec τ)

theorem identify_of_get? {document : Document} {id : Value}
    (found : document.get? idField = some id) (source : τ) :
    identify codec document source = ((id, document), source) := by
  simp only [identify, found]
  rfl

theorem identify_of_missing {document : Document} (distinct : document.names.Nodup)
    (missing : document.get? idField = none) (source : τ) :
    identify codec document source =
      (((codec.mint source).1, ⟨(idField, (codec.mint source).1) :: document.entries⟩),
        (codec.mint source).2) := by
  simp only [identify, missing]
  rw [Fields.insertAll_singleton distinct (Fields.not_mem_names_of_get? missing)]

/-- Besides the identifier nothing is added to a document, and nothing is lost. -/
theorem identifies_identify {document : Document} (distinct : document.names.Nodup) (source : τ) :
    Identifies codec document source (identify codec document source).1.2
      (identify codec document source).2 := by
  cases found : document.get? idField with
  | some id =>
      rw [identify_of_get? codec found]
      exact .own found
  | none =>
      rw [identify_of_missing codec distinct found]
      exact .new found

/-- The identifier that is told of a document is the one that is stored in it. -/
theorem get?_identify {document : Document} (distinct : document.names.Nodup) (source : τ) :
    (identify codec document source).1.2.get? idField =
      some (identify codec document source).1.1 := by
  cases found : document.get? idField with
  | some id =>
      rw [identify_of_get? codec found]
      exact found
  | none =>
      rw [identify_of_missing codec distinct found]
      rfl

end BulkWrite

namespace Session

variable (key : PrimaryKey τ)

/-- Entry by entry, a batch stores what belongs to its documents. -/
theorem stores_storedEntries (raws : List Document) (source : τ) :
    Stores key raws source ((storedEntries key raws source).1.map Prod.snd)
      (storedEntries key raws source).2 := by
  induction raws generalizing source with
  | nil => exact .nil source
  | cons raw raws ih =>
      cases empty : raw.isEmpty with
      | true =>
          rw [storedEntries_cons_of_isEmpty key empty]
          exact .skip empty (ih source)
      | false =>
          rw [storedEntries_cons_of_fields key empty]
          -- The names are distinct, so an identifier in front of the fields displaces none of them.
          exact .store empty (key.canonicalInsert_of_fields empty source)
            (BulkWrite.identifies_identify key.codec (key.nodup_names_canonicalFilter raw source) _)
            (ih _)

theorem get?_of_mem_storedEntries {raws : List Document} {source : τ} {entry : Value × Document}
    (member : entry ∈ (storedEntries key raws source).1) :
    entry.2.get? BulkWrite.idField = some entry.1 := by
  obtain ⟨raw, -, between, rfl⟩ := Traversal.exists_of_mem_mapM member
  exact BulkWrite.get?_identify key.codec (key.nodup_names_canonicalFilter raw between) _

/-- The identifiers that are told of stored documents are theirs, one after the other. -/
theorem forall₂_present (session : Session) (raws : List Document) (source : τ) :
    List.Forall₂ (session.Presents key.codec) ((storedEntries key raws source).1.map Prod.snd)
      ((storedEntries key raws source).1.map fun entry => session.present key.codec entry.1) := by
  rw [List.forall₂_map_left_iff, List.forall₂_map_right_iff, List.forall₂_same]
  exact fun entry member => ⟨entry.1, get?_of_mem_storedEntries key member, rfl⟩

/-- A batch that is put together of two is stored as the two, one after the other. -/
theorem storedEntries_append (xs ys : List Document) (source : τ) :
    storedEntries key (xs ++ ys) source =
      ((storedEntries key xs source).1 ++
          (storedEntries key ys (storedEntries key xs source).2).1,
        (storedEntries key ys (storedEntries key xs source).2).2) := by
  rw [storedEntries, List.filter_append, List.mapM_append]
  rfl

/-! ## Plans -/

variable (session : Session)

theorem fault?_insert_eq_none_iff (raws : List Document) :
    session.fault? (.insert raws) = none ↔
      session.target.fault? = none ∧ ∃ raw ∈ raws, raw.isEmpty = false := by
  rw [fault?_eq_none_iff]
  simp [Intent.flaw?]

/-- In a known collection the only fault of a batch is that there is nothing to be stored. -/
theorem storedEntries_of_fault (resolved : session.target.fault? = none) {raws : List Document}
    {fault : Fault} (found : session.fault? (.insert raws) = some fault) (source : τ) :
    (storedEntries key raws source).1 = [] := by
  rw [fault?_eq, resolved] at found
  cases empty : raws.all Fields.isEmpty with
  | true => exact List.isEmpty_iff.mp ((isEmpty_storedEntries key raws source).trans empty)
  | false => simp [Intent.flaw?, empty] at found

/-- In a known collection, planning a batch leaves the source of identifiers where storing its
documents does. -/
theorem source_planInsertAll (resolved : session.target.fault? = none) (raws : List Document)
    (source : τ) :
    (session.planInsertAll key raws source).2 = (storedEntries key raws source).2 := by
  rw [source_planInsertAll_eq, fault?_eq, resolved]
  cases empty : raws.all Fields.isEmpty with
  | true => simp [Intent.flaw?, empty, storedEntries_of_all_isEmpty key empty]
  | false => simp [Intent.flaw?, empty]

/-- The plan of a batch of one document. -/
theorem planInsertAll_singleton (raw : Document) (source : τ) :
    (session.planInsertAll key [raw] source).1 =
      Plan.unless (session.fault? (.insert [raw]))
        (let entry := (storedEntry key raw source).1
        let id := session.present key.codec entry.1
        .write (.insert [entry.2]) (some (.many [id])) fun result => ⟨result.inserted, [id]⟩) := by
  rw [planInsertAll_eq]
  cases faultless : session.fault? (.insert [raw]) with
  | some fault => rfl
  | none =>
      have fields := session.isEmpty_of_faultless faultless
      rw [storedEntries_cons_of_fields key fields]
      rfl

end Session

/-- Two plans send the same: both are finished with one fault, or both write the same. What they
make of the reply may differ. -/
inductive Plan.Alike {α β : Type} : Plan α → Plan β → Prop where
  | done (fault : Fault) : Alike (.done (.error fault)) (.done (.error fault))
  | write (write : Write) {ids ids' : Option InsertedIds} {answer : WriteResult → α}
      {answer' : WriteResult → β} : Alike (.write write ids answer) (.write write ids' answer')

theorem Plan.Alike.unless {α β : Type} {first : Plan α} {second : Plan β}
    (alike : first.Alike second) (fault? : Option Fault) :
    (Plan.unless fault? first).Alike (Plan.unless fault? second) := by
  cases fault? with
  | none => exact alike
  | some fault => exact .done fault

/-- What a request does to a collection. -/
def Request.operations : Request → List WriteOperation
  | .bulkWrite bulk => bulk.operations
  | _ => []

namespace Connection

variable (connection : Connection σ τ) (session : Session)

/-- Nobody but its caller can tell one operation from another: both send the same requests, keep the
same statement and fail alike. -/
structure Resembles (shared : Shared σ τ) (a b : Operation) : Prop where
  requests : connection.requests (·.perform session a) shared =
    connection.requests (·.perform session b) shared
  tracer : (connection.perform session a shared).1.2.tracer =
    (connection.perform session b shared).1.2.tracer
  faults : ∀ fault, (connection.perform session a shared).1.1 = .error fault ↔
    (connection.perform session b shared).1.1 = .error fault

/-- Plans that send the same are carried out alike. -/
theorem alike_carryOut {α β : Type} {first : Plan α} {second : Plan β}
    (alike : first.Alike second) {a b : Shared σ τ} (same : a.executor = b.executor) :
    (connection.carryOut session first a).1.2.tracer =
        (connection.carryOut session second b).1.2.tracer ∧
      ∀ fault, (connection.carryOut session first a).1.1 = .error fault ↔
        (connection.carryOut session second b).1.1 = .error fault := by
  cases alike with
  | done fault =>
      refine ⟨rfl, fun other => ?_⟩
      simp only [carryOut_done, Except.error.injEq]
  | write write =>
      simp only [carryOut_write, send, same]
      generalize connection.executor.answer _ b.executor = replied
      obtain ⟨reply, after⟩ := replied
      cases reply with
      | error fault =>
          refine ⟨rfl, fun other => ?_⟩
          simp only [Except.error.injEq]
      | ok result =>
          refine ⟨rfl, fun other => ?_⟩
          constructor <;> intro failed <;> contradiction

theorem planRequests_of_alike {α β : Type} {first : Plan α} {second : Plan β}
    (alike : first.Alike second) (target : Namespace) (a b : Shared σ τ) :
    connection.planRequests target first a = connection.planRequests target second b := by
  cases alike <;> rfl

/-- Operations whose plans send the same are not told apart. -/
theorem resembles_of_alike {a b : Operation} {shared : Shared σ τ}
    (alike : (session.plan connection.config connection.primaryKey a shared.source).1.Alike
      (session.plan connection.config connection.primaryKey b shared.source).1) :
    connection.Resembles session shared a b := by
  have carried := connection.alike_carryOut session alike
    (a := (onSource (session.plan connection.config connection.primaryKey a) shared).2)
    (b := (onSource (session.plan connection.config connection.primaryKey b) shared).2) rfl
  refine ⟨?_, carried.1, carried.2⟩
  rw [requests_perform, requests_perform]
  exact connection.planRequests_of_alike alike _ _ _

/-- An insert that hands out its identifier is an insert. -/
theorem resembles_insertGetId (shared : Shared σ τ) (raw : Document) :
    connection.Resembles session shared (.insertGetId raw) (.insert raw) := by
  apply connection.resembles_of_alike session
  rw [Session.plan, Session.plan, Session.planInsert_eq, Session.planInsert_eq]
  exact (Plan.Alike.write _).unless _

/-- An insert of several documents, of which there is one, is an insert. -/
theorem resembles_insertAll_singleton (shared : Shared σ τ) (raw : Document) :
    connection.Resembles session shared (.insertAll [raw]) (.insert raw) := by
  apply connection.resembles_of_alike session
  rw [Session.plan, Session.plan, Session.planInsertAll_singleton, Session.planInsert_eq]
  exact (Plan.Alike.write _).unless _

/-! ## Batches -/

/-- The operations that an insert of several documents sends. -/
def batchOperations (raws : List Document) (shared : Shared σ τ) : List WriteOperation :=
  (connection.requests (·.perform session (.insertAll raws)) shared).flatMap Request.operations

/-- The documents of a batch are stored by one bulk write, and by nothing else. Each identifier that
is told once the bulk write has succeeded is the one of the stored document at its place. -/
structure InsertsAll (raws documents : List Document) (shared : Shared σ τ) : Prop where
  stores : Stores connection.primaryKey raws shared.source documents
    (connection.perform session (.insertAll raws) shared).2.source
  requests : connection.requests (·.perform session (.insertAll raws)) shared =
    [.bulkWrite ⟨session.target, documents.map .insert, connection.config.writeConcern⟩]
  answer : ∀ result,
    (connection.executor.answer
        (.bulkWrite ⟨session.target, documents.map .insert, connection.config.writeConcern⟩)
        shared.executor).1 = .ok result →
      ∃ ids, (connection.perform session (.insertAll raws) shared).1.1 =
          .ok ⟨result.inserted, ids⟩ ∧
        (connection.perform session (.insertAll raws) shared).1.2.lastInsert = some (.many ids) ∧
        List.Forall₂ (session.Presents connection.codec) documents ids

theorem source_insertAll (resolved : session.target.fault? = none) (raws : List Document)
    (shared : Shared σ τ) :
    (connection.perform session (.insertAll raws) shared).2.source =
      (Session.storedEntries connection.primaryKey raws shared.source).2 :=
  (connection.source_perform session (.insertAll raws) shared).trans
    (session.source_planInsertAll connection.primaryKey resolved raws shared.source)

theorem requests_insertAll (raws : List Document) (shared : Shared σ τ) :
    connection.requests (·.perform session (.insertAll raws)) shared =
      if (session.fault? (.insert raws)).isSome then []
      else [.bulkWrite ⟨session.target,
        ((Session.storedEntries connection.primaryKey raws shared.source).1.map Prod.snd).map
          .insert, connection.config.writeConcern⟩] := by
  rw [requests_perform]
  show connection.planRequests session.target
    (session.planInsertAll connection.primaryKey raws shared.source).1 _ = _
  rw [Session.planInsertAll_eq]
  cases session.fault? (.insert raws) <;> rfl

/-- In a known collection nothing of a batch is held back, not even of one without any fields. -/
theorem batchOperations_eq (resolved : session.target.fault? = none) (raws : List Document)
    (shared : Shared σ τ) :
    connection.batchOperations session raws shared =
      ((Session.storedEntries connection.primaryKey raws shared.source).1.map Prod.snd).map
        .insert := by
  rw [batchOperations, requests_insertAll]
  cases found : session.fault? (.insert raws) with
  | none => exact List.append_nil _
  | some fault =>
      rw [session.storedEntries_of_fault connection.primaryKey resolved found]
      rfl

theorem batchOperations_of_unresolved {fault : Fault}
    (unresolved : session.target.fault? = some fault) (raws : List Document)
    (shared : Shared σ τ) :
    connection.batchOperations session raws shared = [] := by
  rw [batchOperations, requests_insertAll, Session.fault?_eq, unresolved]
  rfl

/-- What a batch sends is what its parts send, one after the other. -/
theorem batchOperations_append (xs ys : List Document) (shared : Shared σ τ) :
    connection.batchOperations session (xs ++ ys) shared =
      connection.batchOperations session xs shared ++
        connection.batchOperations session ys
          (connection.perform session (.insertAll xs) shared).2 := by
  cases resolved : session.target.fault? with
  | some fault =>
      simp only [connection.batchOperations_of_unresolved session resolved, List.append_nil]
  | none =>
      simp only [connection.batchOperations_eq session resolved,
        connection.source_insertAll session resolved, Session.storedEntries_append,
        List.map_append]

/-- What an answered write leaves behind. -/
theorem perform_of_replied {operation : Operation} {shared : Shared σ τ} {write : Write}
    {ids : Option InsertedIds} {answer : WriteResult → operation.Answer} {result : WriteResult}
    (planned : (session.plan connection.config connection.primaryKey operation shared.source).1 =
      .write write ids answer)
    (replied : (connection.executor.answer
        (.bulkWrite (write.bulk session.target connection.config.writeConcern))
        shared.executor).1 = .ok result) :
    (connection.perform session operation shared).1 =
      (.ok (answer result), (session.remember write.statement ids).edit .reset) := by
  have asked : (onSource (session.plan connection.config connection.primaryKey operation)
    shared).1 = .write write ids answer := planned
  have same : (onSource (session.plan connection.config connection.primaryKey operation)
    shared).2.executor = shared.executor := rfl
  simp only [perform_eq, asked, carryOut_write, send, same]
  generalize connection.executor.answer _ shared.executor = answered at replied ⊢
  obtain ⟨reply, after⟩ := answered
  cases replied
  rfl

theorem insertsAll {raws : List Document} (faultless : session.fault? (.insert raws) = none)
    (shared : Shared σ τ) : ∃ documents, connection.InsertsAll session raws documents shared := by
  have resolved := ((session.fault?_eq_none_iff _).mp faultless).1
  let entries := (Session.storedEntries connection.primaryKey raws shared.source).1
  let ids := entries.map fun entry => session.present connection.codec entry.1
  refine ⟨entries.map Prod.snd, ?_, ?_, ?_⟩
  · rw [connection.source_insertAll session resolved]
    exact Session.stores_storedEntries connection.primaryKey raws shared.source
  · rw [requests_insertAll, faultless]
    rfl
  · intro result replied
    have planned : (session.plan connection.config connection.primaryKey (.insertAll raws)
        shared.source).1 = .write (.insert (entries.map Prod.snd)) (some (.many ids))
          fun result => ⟨result.inserted, ids⟩ := by
      rw [Session.plan, Session.planInsertAll_eq, faultless]
      rfl
    have performed := connection.perform_of_replied session planned replied
    exact ⟨ids, congrArg Prod.fst performed,
      congrArg (fun performed => performed.2.lastInsert) performed,
      Session.forall₂_present connection.primaryKey session raws shared.source⟩

/-- An insert of several documents stores each one that has fields, once and in their order, and
says which identifiers they have. A single document is inserted as a batch of its own, whichever way
it is inserted, and a batch may as well be inserted in parts. -/
theorem insertAll_keeps_all (connection : Connection σ τ) (session : Session)
    (shared : Shared σ τ) :
    (∀ raws, session.target.database ≠ "" → session.target.collection ≠ "" →
      (∃ raw ∈ raws, raw.isEmpty = false) →
        ∃ documents, connection.InsertsAll session raws documents shared) ∧
    (∀ raw, connection.Resembles session shared (.insertGetId raw) (.insert raw) ∧
      connection.Resembles session shared (.insertAll [raw]) (.insert raw)) ∧
    ∀ xs ys, connection.batchOperations session (xs ++ ys) shared =
      connection.batchOperations session xs shared ++
        connection.batchOperations session ys
          (connection.perform session (.insertAll xs) shared).2 := by
  refine ⟨?_, ?_, ?_⟩
  · intro raws database collection fields
    have resolved := Namespace.fault?_eq_none_iff.mpr ⟨database, collection⟩
    exact connection.insertsAll session
      ((session.fault?_insert_eq_none_iff raws).mpr ⟨resolved, fields⟩) shared
  · intro raw
    exact ⟨connection.resembles_insertGetId session shared raw,
      connection.resembles_insertAll_singleton session shared raw⟩
  · intro xs ys
    exact connection.batchOperations_append session xs ys shared

/-- Of three documents one has no fields and one a text under its primary key that names no
identifier. -/
theorem insertAll_keeps_all_but_empty :
    let session := recordedConnection.collection "users"
    let shared : Shared Recorder Nat := ⟨{}, 0, none⟩
    let raws : List Document :=
      [.singleton " _id" (.string "x"), ∅, .singleton "name " (.string "Ann")]
    session.target.database ≠ "" ∧ session.target.collection ≠ "" ∧
      (∃ raw ∈ raws, raw.isEmpty = false) ∧
      recordedConnection.InsertsAll session raws
        [⟨[("_id", .objectId (.ofNat 1))]⟩,
          ⟨[("_id", .objectId (.ofNat 2)), ("name", .string "Ann")]⟩] shared := by
  intro session shared raws
  have database : session.target.database ≠ "" := by decide
  have collection : session.target.collection ≠ "" := by decide
  have fields : ∃ raw ∈ raws, raw.isEmpty = false := ⟨_, List.mem_cons_self, rfl⟩
  obtain ⟨documents, inserts⟩ :=
    (insertAll_keeps_all recordedConnection session shared).1 raws database collection fields
  have sent : recordedConnection.requests (·.perform session (.insertAll raws)) shared =
      [.bulkWrite ⟨⟨"app", "users"⟩,
        [⟨[("_id", .objectId (.ofNat 1))]⟩,
          ⟨[("_id", .objectId (.ofNat 2)), ("name", .string "Ann")]⟩].map .insert,
        some { acknowledgment := .majority }⟩] := rfl
  have bulk := Request.bulkWrite.inj (List.head_eq_of_cons_eq (inserts.requests.symm.trans sent))
  have injective : Function.Injective WriteOperation.insert :=
    fun _ _ same => WriteOperation.insert.inj same
  obtain rfl := List.map_injective_iff.mpr injective (BulkWrite.mk.inj bulk).2.1
  exact ⟨database, collection, fields, inserts⟩

end Connection

end DocQuery
