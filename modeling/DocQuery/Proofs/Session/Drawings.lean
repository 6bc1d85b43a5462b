import DocQuery.Proofs.Key.Drawings
import DocQuery.Proofs.Session.Batches
import DocQuery.Proofs.Session.Verdicts

/-!
# Which identifiers a run draws

All sessions of a connection draw from one source. What a run draws is the concatenation of what
its steps draw, in the order of the calls. A filter draws when it is set. An insert draws for one
document after another, and for each of them first what its fields draw and then its own identifier;
an update draws what its operands draw. Everything else draws nothing, and so does whatever is
refused.

Each drawing takes the next identifier of the source, so the drawings of a run and the identifiers
that have left the source since its beginning are in one-to-one correspondence. Unless the source
repeats itself, no two documents are stored behind the same drawn identifier.
-/

namespace DocQuery

variable {σ τ : Type}

/-- The document that is stored for a raw one, and what is drawn for it: what its fields draw, and
then an identifier for itself if it has none. -/
inductive InsertsOne (key : PrimaryKey τ) (raw : Document) : List Drawing → Document → Prop where
  | own {canonical : List (String × Value)} {drawings : List Drawing} {id : Value}
      (canonizes : key.Canonizes raw.entries drawings canonical)
      (there : (Fields.ofList canonical).get? "_id" = some id) :
      InsertsOne key raw drawings (.ofList canonical)
  | new {canonical : List (String × Value)} {drawings : List Drawing}
      (canonizes : key.Canonizes raw.entries drawings canonical)
      (missing : (Fields.ofList canonical).get? "_id" = none) (id : Value) :
      InsertsOne key raw (drawings ++ [⟨.missing (.ofList canonical), id⟩])
        ⟨("_id", id) :: (Fields.ofList canonical).entries⟩

/-- The documents that are stored for raw ones, and what is drawn for them, one document after
another. -/
inductive Inserts (key : PrimaryKey τ) : List Document → List Drawing → List Document → Prop where
  | nil : Inserts key [] [] []
  | skip {raw : Document} {raws documents : List Document} {drawings : List Drawing}
      (empty : raw.isEmpty = true) (rest : Inserts key raws drawings documents) :
      Inserts key (raw :: raws) drawings documents
  | store {raw document : Document} {raws documents : List Document}
      {first drawings : List Drawing} (fields : raw.isEmpty = false)
      (one : InsertsOne key raw first document) (rest : Inserts key raws drawings documents) :
      Inserts key (raw :: raws) (first ++ drawings) (document :: documents)

theorem InsertsOne.sublist {key : PrimaryKey τ} {raw document : Document}
    {drawings : List Drawing} (one : InsertsOne key raw drawings document) :
    (drawings.filterMap Drawing.stored?).Sublist [document] := by
  cases one with
  | own canonizes _ =>
      rw [canonizes.filterMap_stored?]
      exact List.nil_sublist _
  | new canonizes _ id =>
      rw [List.filterMap_append, canonizes.filterMap_stored?]
      exact List.Sublist.refl _

/-- Documents for which an identifier is drawn are stored, in the order of the drawings. -/
theorem Inserts.sublist {key : PrimaryKey τ} {raws documents : List Document}
    {drawings : List Drawing} (inserts : Inserts key raws drawings documents) :
    (drawings.filterMap Drawing.stored?).Sublist documents := by
  induction inserts with
  | nil => exact .slnil
  | skip _ _ ih => exact ih
  | store _ one _ ih =>
      rw [List.filterMap_append]
      exact one.sublist.append ih

namespace Session

variable (key : PrimaryKey τ)

/-- A document is stored with the next identifiers of the source. Its own comes last, because
whether it has one is known of its canonical form only. -/
theorem exists_insertsOne (raw : Document) (source : τ) :
    ∃ drawings, InsertsOne key raw drawings (storedEntry key raw source).1.2 ∧
      key.codec.Mints source (drawings.map Drawing.id) (storedEntry key raw source).2 := by
  obtain ⟨drawings, canonizes, mints⟩ := key.exists_canonizes raw.entries source
  have distinct := key.nodup_names_canonicalFilter raw source
  rw [key.canonicalFilter_eq] at distinct
  have stored : storedEntry key raw source = BulkWrite.identify key.codec
      (.ofList (raw.entries.mapM key.canonicalEntry source).1)
      (raw.entries.mapM key.canonicalEntry source).2 := rfl
  rw [stored]
  generalize raw.entries.mapM key.canonicalEntry source = canonical at *
  obtain ⟨entries, between⟩ := canonical
  cases found : (Fields.ofList entries).get? BulkWrite.idField with
  | some id =>
      rw [BulkWrite.identify_of_get? key.codec found]
      exact ⟨drawings, .own canonizes found, mints⟩
  | none =>
      rw [BulkWrite.identify_of_missing key.codec distinct found]
      refine ⟨drawings ++ [⟨.missing (.ofList entries), _⟩], .new canonizes found _, ?_⟩
      rw [List.map_append]
      exact mints.append (.cons (.nil _))

/-- The documents of a batch are stored with the next identifiers of the source. -/
theorem exists_inserts (raws : List Document) (source : τ) :
    ∃ drawings, Inserts key raws drawings ((storedEntries key raws source).1.map Prod.snd) ∧
      key.codec.Mints source (drawings.map Drawing.id) (storedEntries key raws source).2 := by
  induction raws generalizing source with
  | nil => exact ⟨[], .nil, .nil source⟩
  | cons raw raws ih =>
      cases empty : raw.isEmpty with
      | true =>
          rw [storedEntries_cons_of_isEmpty key empty]
          obtain ⟨drawings, inserts, mints⟩ := ih source
          exact ⟨drawings, .skip empty inserts, mints⟩
      | false =>
          rw [storedEntries_cons_of_fields key empty]
          obtain ⟨first, one, drawn⟩ := exists_insertsOne key raw source
          obtain ⟨drawings, inserts, mints⟩ := ih (storedEntry key raw source).2
          refine ⟨first ++ drawings, .store empty one inserts, ?_⟩
          rw [List.map_append]
          exact drawn.append mints

end Session

def Request.insertedDocuments (request : Request) : List Document :=
  request.operations.filterMap WriteOperation.inserted?

theorem Request.insertedDocuments_bulkWrite (bulk : BulkWrite) :
    (bulkWrite bulk).insertedDocuments = bulk.insertedDocuments := rfl

namespace Connection

variable (connection : Connection σ τ) (session : Session) (shared : Shared σ τ)

inductive SetDraws : Setting → List Drawing → Prop where
  | filter {raw : Document} {canonical : List (String × Value)} {drawings : List Drawing}
      (canonizes : connection.primaryKey.Canonizes raw.entries drawings canonical)
      (kept : (connection.set session (.filter raw) shared).1 =
        session.edit (.filter (.ofList canonical))) :
      SetDraws (.filter raw) drawings
  | other {setting : Setting} (plain : ∀ raw, setting ≠ .filter raw) : SetDraws setting []

/-- What an operation draws, and where that is sent. -/
inductive PerformDraws : Operation → List Drawing → Prop where
  | refused {operation : Operation} {answer : Except Fault operation.Answer}
      (verdict : session.verdict? operation = some answer) : PerformDraws operation []
  | insert {operation : Operation} {raws documents : List Document} {drawings : List Drawing}
      (accepted : session.verdict? operation = none) (intent : operation.intent = .insert raws)
      (inserts : Inserts connection.primaryKey raws drawings documents)
      (sent : connection.requests (·.perform session operation) shared =
        [.bulkWrite ((Write.insert documents).bulk session.target
          connection.config.writeConcern)]) :
      PerformDraws operation drawings
  | update {operation : Operation} {raw : Document} {canonical : List (String × Value)}
      {drawings : List Drawing} (accepted : session.verdict? operation = none)
      (intent : operation.intent = .update raw)
      (canonizes : connection.primaryKey.Canonizes (FieldUpdate.operands raw) drawings canonical)
      (sent : connection.requests (·.perform session operation) shared =
        [.bulkWrite ((Write.update session.options.filter
          (UpdateDocument.empty.sort (FieldUpdate.operators raw) canonical).toDocument
          (session.options.limit ≠ some 1) (session.options.upsert.getD false)).bulk session.target
          connection.config.writeConcern)]) :
      PerformDraws operation drawings
  | other {operation : Operation} (accepted : session.verdict? operation = none)
      (plain : operation.intent = .delete ∨ operation.intent = .read) : PerformDraws operation []

theorem exists_setDraws (setting : Setting) :
    ∃ drawings, connection.SetDraws session shared setting drawings ∧
      connection.codec.Mints shared.source (drawings.map Drawing.id)
        (connection.set session setting shared).2.source := by
  cases setting with
  | filter raw =>
      obtain ⟨drawings, canonizes, mints⟩ :=
        connection.primaryKey.exists_canonizes raw.entries shared.source
      exact ⟨drawings, .filter canonizes rfl, mints⟩
  | _ => exact ⟨[], .other fun _ => Setting.noConfusion, .nil _⟩

/-- An accepted operation leaves the source of identifiers where carrying out its intent does. -/
theorem source_of_accepted {operation : Operation}
    (accepted : session.verdict? operation = none) :
    (connection.perform session operation shared).2.source =
      operation.intent.sourceAfter connection.primaryKey shared.source := by
  rw [source_perform, Session.source_plan, accepted]
  rfl

theorem exists_performDraws (operation : Operation) :
    ∃ drawings, connection.PerformDraws session shared operation drawings ∧
      connection.codec.Mints shared.source (drawings.map Drawing.id)
        (connection.perform session operation shared).2.source := by
  cases verdict : session.verdict? operation with
  | some answer =>
      have kept : (connection.perform session operation shared).2.source = shared.source := by
        rw [source_perform, Session.source_plan, verdict]
        rfl
      rw [kept]
      exact ⟨[], .refused verdict, .nil _⟩
  | none =>
      -- What is sent and what is drawn come from the same entries, starting at the same source.
      have sent : ∀ write,
          session.write? connection.primaryKey shared.source operation.intent = some write →
            connection.requests (·.perform session operation) shared =
              [.bulkWrite (write.bulk session.target connection.config.writeConcern)] := by
        intro write meant
        rw [requests_perform]
        exact connection.operationRequests_of_write? session verdict meant
      rw [connection.source_of_accepted session shared verdict]
      cases intent : operation.intent with
      | insert raws =>
          rw [intent] at sent
          obtain ⟨drawings, inserts, mints⟩ :=
            Session.exists_inserts connection.primaryKey raws shared.source
          exact ⟨drawings, .insert verdict intent inserts (sent _ rfl), mints⟩
      | update raw =>
          rw [intent] at sent
          obtain ⟨drawings, canonizes, mints⟩ :=
            connection.primaryKey.exists_canonizes (FieldUpdate.operands raw) shared.source
          have sorted := connection.primaryKey.sortedUpdate_eq raw shared.source
          refine ⟨drawings, .update verdict intent canonizes (sent _ ?_), ?_⟩
          · rw [Session.write?, sorted]
          · rw [Intent.sourceAfter, sorted]
            exact mints
      | delete => exact ⟨[], .other verdict (.inl intent), .nil _⟩
      | read => exact ⟨[], .other verdict (.inr intent), .nil _⟩

theorem PerformDraws.sublist {connection : Connection σ τ} {session : Session}
    {shared : Shared σ τ} {operation : Operation} {drawings : List Drawing}
    (draws : connection.PerformDraws session shared operation drawings) :
    (drawings.filterMap Drawing.stored?).Sublist
      ((connection.operationRequests session operation shared).flatMap
        Request.insertedDocuments) := by
  rw [← requests_perform]
  cases draws with
  | refused _ => exact List.nil_sublist _
  | insert _ _ inserts sent =>
      rw [sent, List.flatMap_singleton, Request.insertedDocuments_bulkWrite,
        Write.insertedDocuments_bulk_insert]
      exact inserts.sublist
  | update _ _ canonizes _ =>
      rw [canonizes.filterMap_stored?]
      exact List.nil_sublist _
  | other _ _ => exact List.nil_sublist _

/-- What the check of the collection turns away has drawn nothing. -/
theorem source_of_unresolved {session : Session} {operation : Operation}
    (unresolved : session.target.database = "" ∨ session.target.collection = "") :
    (connection.perform session operation shared).2.source = shared.source := by
  rw [source_perform, Session.source_plan]
  have faulty : session.target.fault? ≠ none := by
    intro resolved
    obtain ⟨database, collection⟩ := Namespace.fault?_eq_none_iff.mp resolved
    exact unresolved.elim database collection
  cases verdict : session.verdict? operation with
  | some answer => rfl
  | none => exact absurd (session.resolved_of_verdict?_eq_none verdict) faulty

end Connection

namespace Workspace

variable {connection : Connection σ τ}

/-- What a step draws. Settings and operations draw only if there is a session under the name. -/
inductive StepDraws (connection : Connection σ τ) (workspace : Workspace σ τ) :
    Step → List Drawing → Prop where
  | openSession (name collection : String) :
      StepDraws connection workspace (.openSession name collection) []
  | unset {name : String} (missing : workspace.session? name = none) (setting : Setting) :
      StepDraws connection workspace (.set name setting) []
  | unperformed {name : String} (missing : workspace.session? name = none)
      (operation : Operation) : StepDraws connection workspace (.perform name operation) []
  | set {name : String} {session : Session} {setting : Setting} {drawings : List Drawing}
      (found : workspace.session? name = some session)
      (draws : connection.SetDraws session workspace.shared setting drawings) :
      StepDraws connection workspace (.set name setting) drawings
  | perform {name : String} {session : Session} {operation : Operation} {drawings : List Drawing}
      (found : workspace.session? name = some session)
      (draws : connection.PerformDraws session workspace.shared operation drawings) :
      StepDraws connection workspace (.perform name operation) drawings

/-- What a run draws, step by step. -/
inductive Draws (connection : Connection σ τ) :
    Workspace σ τ → List Step → List Drawing → Prop where
  | nil (workspace : Workspace σ τ) : Draws connection workspace [] []
  | cons {workspace : Workspace σ τ} {next : Step} {steps : List Step}
      {first later : List Drawing} (draws : workspace.StepDraws connection next first)
      (rest : Draws connection (workspace.step connection next) steps later) :
      Draws connection workspace (next :: steps) (first ++ later)

theorem exists_stepDraws (connection : Connection σ τ) (workspace : Workspace σ τ) (step : Step) :
    ∃ drawings, workspace.StepDraws connection step drawings ∧
      connection.codec.Mints workspace.shared.source (drawings.map Drawing.id)
        (workspace.step connection step).shared.source := by
  cases step with
  | openSession name collection => exact ⟨[], .openSession name collection, .nil _⟩
  | set name setting =>
      cases found : workspace.session? name with
      | none =>
          rw [step_set_of_none connection setting found]
          exact ⟨[], .unset found setting, .nil _⟩
      | some session =>
          rw [step_set_of_some connection setting found]
          obtain ⟨drawings, draws, mints⟩ :=
            connection.exists_setDraws session workspace.shared setting
          exact ⟨drawings, .set found draws, mints⟩
  | perform name operation =>
      cases found : workspace.session? name with
      | none =>
          rw [step_perform_of_none connection operation found]
          exact ⟨[], .unperformed found operation, .nil _⟩
      | some session =>
          rw [step_perform_of_some connection operation found]
          obtain ⟨drawings, draws, mints⟩ :=
            connection.exists_performDraws session workspace.shared operation
          exact ⟨drawings, .perform found draws, mints⟩

theorem exists_draws (connection : Connection σ τ) (workspace : Workspace σ τ)
    (steps : List Step) :
    ∃ drawings, workspace.Draws connection steps drawings ∧
      connection.codec.Mints workspace.shared.source (drawings.map Drawing.id)
        (workspace.run connection steps).shared.source := by
  induction steps generalizing workspace with
  | nil => exact ⟨[], .nil workspace, .nil _⟩
  | cons next steps ih =>
      obtain ⟨first, draws, drawn⟩ := workspace.exists_stepDraws connection next
      obtain ⟨later, rest, mints⟩ := ih (workspace.step connection next)
      refine ⟨first ++ later, .cons draws rest, ?_⟩
      rw [List.map_append, run_cons]
      exact drawn.append mints

theorem StepDraws.sublist {workspace : Workspace σ τ} {step : Step} {drawings : List Drawing}
    (draws : workspace.StepDraws connection step drawings) :
    (drawings.filterMap Drawing.stored?).Sublist
      ((workspace.stepRequests connection step).flatMap Request.insertedDocuments) := by
  cases draws with
  | openSession _ _ => exact List.nil_sublist _
  | unset _ _ => exact List.nil_sublist _
  | unperformed _ _ => exact List.nil_sublist _
  | set _ draws =>
      cases draws with
      | filter canonizes _ =>
          rw [canonizes.filterMap_stored?]
          exact List.nil_sublist _
      | other _ => exact List.nil_sublist _
  | perform found draws =>
      rw [stepRequests, found]
      exact draws.sublist

/-- Documents for which a run draws an identifier are inserted by it, in the order of the
drawings. -/
theorem Draws.sublist {workspace : Workspace σ τ} {steps : List Step} {drawings : List Drawing}
    (draws : workspace.Draws connection steps drawings) :
    (drawings.filterMap Drawing.stored?).Sublist
      ((workspace.requests connection steps).flatMap Request.insertedDocuments) := by
  induction draws with
  | nil _ => exact .slnil
  | cons draws _ ih =>
      rw [requests_cons, List.filterMap_append, List.flatMap_append]
      exact draws.sublist.append ih

/-- The identifiers of documents are among those that are drawn. -/
theorem sublist_ids (drawings : List Drawing) :
    ((drawings.filterMap Drawing.stored?).map (·.get? "_id")).Sublist
      (drawings.map fun drawing => some drawing.id) := by
  induction drawings with
  | nil => exact .slnil
  | cons drawing drawings ih =>
      obtain ⟨reason, id⟩ := drawing
      cases reason with
      | misspelt raw => exact ih.cons _
      | missing document => exact ih.cons_cons _

/-- An account of the drawings of a run. -/
structure Accounts (connection : Connection σ τ) (workspace : Workspace σ τ) (steps : List Step)
    (drawings : List Drawing) : Prop where
  draws : workspace.Draws connection steps drawings
  /-- The identifiers are those that leave the source, one after another. -/
  mints : connection.codec.Mints workspace.shared.source (drawings.map Drawing.id)
    (workspace.run connection steps).shared.source
  /-- Each document for which one is drawn is inserted. -/
  stored : (drawings.filterMap Drawing.stored?).Sublist
    ((workspace.requests connection steps).flatMap Request.insertedDocuments)
  /-- Unless the source has repeated itself, none is drawn twice. -/
  different : connection.codec.Distinct workspace.shared.source drawings.length →
    (drawings.map Drawing.id).Nodup
  identified : connection.codec.Distinct workspace.shared.source drawings.length →
    ((drawings.filterMap Drawing.stored?).map (·.get? "_id")).Nodup

theorem Accounts.of_mints {workspace : Workspace σ τ} {steps : List Step} {drawings : List Drawing}
    (draws : workspace.Draws connection steps drawings)
    (mints : connection.codec.Mints workspace.shared.source (drawings.map Drawing.id)
      (workspace.run connection steps).shared.source) :
    workspace.Accounts connection steps drawings := by
  have different (distinct : connection.codec.Distinct workspace.shared.source drawings.length) :
      (drawings.map Drawing.id).Nodup := by
    rw [← List.length_map Drawing.id] at distinct
    exact mints.nodup distinct
  refine ⟨draws, mints, draws.sublist, different, fun distinct => ?_⟩
  have wrapped := (different distinct).map (f := some) fun _ _ => Option.some.inj
  rw [List.map_map] at wrapped
  exact (sublist_ids drawings).nodup wrapped

/-- A run draws an identifier for each text under the primary key that spells none and for each
document that is stored without one, in the order of the calls, of the documents of a call, and of
their fields. No other identifiers leave the source, and unless it repeats itself no two documents
get the same. What the check of the collection turns away draws nothing. -/
theorem run_draws (connection : Connection σ τ) (workspace : Workspace σ τ) (steps : List Step) :
    (∃ drawings, workspace.Accounts connection steps drawings) ∧
      ∀ (session : Session) operation (shared : Shared σ τ),
        session.target.database = "" ∨ session.target.collection = "" →
          (connection.perform session operation shared).2.source = shared.source := by
  refine ⟨?_, fun _ _ shared => connection.source_of_unresolved shared⟩
  obtain ⟨drawings, draws, mints⟩ := workspace.exists_draws connection steps
  exact ⟨drawings, .of_mints draws mints⟩

/-- A filter and an insert draw for a text, a document without an identifier draws behind the one
in front of it, and an update draws for its operand. The insert into no collection draws nothing. -/
theorem run_draws_four :
    let workspace : Workspace Recorder Nat := ⟨⟨{}, 0, none⟩, ∅⟩
    let steps : List Step :=
      [.openSession "q" "users",
       .set "q" (.filter (.singleton "_id" (.string "ann"))),
       .perform "q" (.insertAll
         [.singleton " _id" (.string "bob"), ∅, .singleton "name" (.string "Ann")]),
       .openSession "r" "",
       .perform "r" (.insert (.singleton "_id" (.string "carl"))),
       .set "q" (.filter (.singleton "name" (.string "Ann"))),
       .perform "q" (.setField "_id" (.string "dan"))]
    ∃ drawings, workspace.Accounts recordedConnection steps drawings ∧
      drawings.length = 4 ∧
      recordedConnection.codec.Distinct 0 4 ∧
      (drawings.map Drawing.id).Nodup := by
  intro workspace steps
  obtain ⟨drawings, accounts⟩ := (run_draws recordedConnection workspace steps).1
  have last : (workspace.run recordedConnection steps).shared.source = 4 := by
    decide +kernel
  have counted : drawings.length = 4 := by
    have mints := accounts.mints
    rw [last] at mints
    simpa [workspace] using mints.eq_add_length.symm
  have distinct : recordedConnection.codec.Distinct 0 4 := Codec.distinct_counting (by decide)
  exact ⟨drawings, accounts, counted, distinct, accounts.different (counted.symm ▸ distinct)⟩

end Workspace

end DocQuery
