import DocQuery.Proofs.Session.Batches

/-!
# Identifiers as texts

A session may hand out identifiers as texts. That is a matter of what its caller is told: whoever
watches the executor or reads the diagnostics cannot tell whether it does. An answer differs in the
identifiers that it holds and in nothing else, and each of them is the text of the identifier that
would have been handed out otherwise. The same goes for the identifiers that the session remembers.

The text of an object identifier is its own text. So where identifiers are object identifiers, the
texts that can be had of remembered ones are the same in both cases.
-/

namespace DocQuery

variable {σ τ : Type}

/-- Identifiers with the text of each in its place. -/
def InsertedIds.asText (codec : Codec τ) : InsertedIds → InsertedIds
  | one id => one (.string (codec.toText id))
  | many ids => many (ids.map fun id => .string (codec.toText id))

/-- An answer with the texts of the identifiers in it. Only inserts that tell identifiers have any
in their answers. -/
def Operation.asText (codec : Codec τ) :
    (operation : Operation) → operation.Answer → operation.Answer
  | insertGetId _, (id : Value) => Value.string (codec.toText id)
  | insertAll _, (many : InsertedMany) =>
    { many with ids := many.ids.map fun id => .string (codec.toText id) }
  | _, answer => answer

/-- Texts are not changed any more by being handed out as texts. -/
theorem InsertedIds.toTexts_asText {codec : Codec τ}
    (settled : ∀ id, codec.toText (.string (codec.toText id)) = codec.toText id)
    (ids : InsertedIds) : (ids.asText codec).toTexts codec = ids.toTexts codec := by
  cases ids with
  | one id => simp only [asText, toTexts, toList, List.map_cons, List.map_nil, settled]
  | many ids =>
      simp only [asText, toTexts, toList, List.map_map]
      exact List.map_congr_left fun id _ => settled id

theorem Codec.toText_toText_objectId (next : τ → ObjectId × τ) (id : Value) :
    (objectId next).toText (.string ((objectId next).toText id)) = (objectId next).toText id := rfl

/-! ## Plans -/

/-- Two plans do the same, and what the second one hands out are texts. -/
inductive Plan.Rewords (codec : Codec τ) (operation : Operation) :
    Plan operation.Answer → Plan operation.Answer → Prop where
  | failed (fault : Fault) : Rewords codec operation (.done (.error fault)) (.done (.error fault))
  | settled (changes : ∀ raws, operation.intent ≠ .insert raws) {answer : operation.Answer}
      (plain : operation.asText codec answer = answer) :
      Rewords codec operation (.done (.ok answer)) (.done (.ok answer))
  | insert {raws : List Document} (inserts : operation.intent = .insert raws) (write : Write)
      (ids : InsertedIds) (answer : WriteResult → operation.Answer) :
      Rewords codec operation (.write write (some ids) answer)
        (.write write (some (ids.asText codec)) fun result =>
          operation.asText codec (answer result))
  | write (changes : ∀ raws, operation.intent ≠ .insert raws) (write : Write)
      {answer : WriteResult → operation.Answer}
      (plain : ∀ result, operation.asText codec (answer result) = answer result) :
      Rewords codec operation (.write write none answer) (.write write none answer)
  | read (reads : operation.intent = .read) {a b : Options}
      (label : a.countLabel = b.countLabel)
      (pipeline : ∀ version, a.pipeline version = b.pipeline version)
      {answer : List Document → operation.Answer}
      (plain : ∀ rows, operation.asText codec (answer rows) = answer rows) :
      Rewords codec operation (.read a answer) (.read b answer)

theorem Plan.Rewords.unless {codec : Codec τ} {operation : Operation}
    {first second : Plan operation.Answer} (rewords : Rewords codec operation first second)
    (fault? : Option Fault) :
    Rewords codec operation (Plan.unless fault? first) (Plan.unless fault? second) := by
  cases fault? with
  | none => exact rewords
  | some fault => exact .failed fault

namespace Session

variable (session : Session) (config : Config) (key : PrimaryKey τ) (source : τ)

/-- The session, when it hands out identifiers as they are. -/
def plain : Session :=
  session.edit (.idsAsText false)

/-- The session, when it hands out identifiers as texts. -/
def wordy : Session :=
  session.edit (.idsAsText true)

theorem target_wordy : session.wordy.target = session.plain.target := rfl

theorem map_present_wordy (codec : Codec τ) (entries : List (Value × Document)) :
    (entries.map fun entry => session.wordy.present codec entry.1) =
      (entries.map fun entry => session.plain.present codec entry.1).map fun id =>
        .string (codec.toText id) := by
  rw [List.map_map]
  rfl

variable {operation : Operation}

theorem rewords_planRead (reads : operation.intent = .read) {edits : List Options.Edit}
    {answer : List Document → operation.Answer}
    (label : (session.plain.options.editAll edits).countLabel =
      (session.wordy.options.editAll edits).countLabel)
    (pipeline : ∀ version, (session.plain.options.editAll edits).pipeline version =
      (session.wordy.options.editAll edits).pipeline version)
    (kept : ∀ rows, operation.asText key.codec (answer rows) = answer rows) :
    Plan.Rewords key.codec operation (session.plain.planRead edits answer source).1
      (session.wordy.planRead edits answer source).1 := by
  rw [planRead_eq, planRead_eq]
  exact Plan.Rewords.unless (.read reads label pipeline kept) _

/-- What is planned is the same, whether or not identifiers are handed out as texts, but for the
identifiers that are handed out. -/
theorem rewords_plan (operation : Operation) :
    Plan.Rewords key.codec operation (session.plain.plan config key operation source).1
      (session.wordy.plan config key operation source).1 := by
  cases operation with
  | insert raw =>
      rw [plan, plan, planInsert_eq, planInsert_eq]
      exact Plan.Rewords.unless (.insert rfl _ _ _) _
  | insertGetId raw =>
      rw [plan, plan, planInsert_eq, planInsert_eq]
      exact Plan.Rewords.unless (.insert rfl _ _ _) _
  | insertAll raws =>
      rw [plan, plan, planInsertAll_eq, planInsertAll_eq]
      simp only [session.map_present_wordy]
      exact Plan.Rewords.unless (.insert rfl _ (.many _) _) _
  | update raw =>
      rw [plan, plan, planUpdate_eq, planUpdate_eq]
      exact Plan.Rewords.unless (.write (fun _ => Intent.noConfusion) _ fun _ => rfl) _
  | setField field content =>
      rw [plan, plan, planUpdate_eq, planUpdate_eq]
      exact Plan.Rewords.unless (.write (fun _ => Intent.noConfusion) _ fun _ => rfl) _
  | increment field step =>
      rw [plan, plan, planUpdate_eq, planUpdate_eq]
      exact Plan.Rewords.unless (.write (fun _ => Intent.noConfusion) _ fun _ => rfl) _
  | decrement field step =>
      rw [plan, plan]
      split
      · exact .failed _
      · rw [planUpdate_eq, planUpdate_eq]
        exact Plan.Rewords.unless (.write (fun _ => Intent.noConfusion) _ fun _ => rfl) _
  | delete =>
      rw [plan, plan, planDelete_eq, planDelete_eq]
      exact Plan.Rewords.unless (.write (fun _ => Intent.noConfusion) _ fun _ => rfl) _
  | value field =>
      rw [plan, plan]
      split
      · exact .settled (fun _ => Intent.noConfusion) rfl
      · exact session.rewords_planRead key source rfl rfl (fun _ => rfl) fun _ => rfl
  | select => exact session.rewords_planRead key source rfl rfl (fun _ => rfl) fun _ => rfl
  | find => exact session.rewords_planRead key source rfl rfl (fun _ => rfl) fun _ => rfl
  | column fields => exact session.rewords_planRead key source rfl rfl (fun _ => rfl) fun _ => rfl
  | count => exact session.rewords_planRead key source rfl rfl (fun _ => rfl) fun _ => rfl
  | page number => exact session.rewords_planRead key source rfl rfl (fun _ => rfl) fun _ => rfl

/-- Whether identifiers are handed out as texts has no effect on how many of them are drawn. -/
theorem source_plan_wordy (operation : Operation) :
    (session.wordy.plan config key operation source).2 =
      (session.plain.plan config key operation source).2 := by
  rw [source_plan, source_plan]
  rfl

end Session

namespace Connection

variable (connection : Connection σ τ) (session : Session) {operation : Operation}

/-! ## Operations -/

/-- What two runs of an operation come to, of which the second one hands out texts. The answers
agree but for the identifiers in them, and so do the identifiers that are remembered of a successful
insert. Nothing else that is left behind differs. -/
structure Tells (codec : Codec τ) (operation : Operation) (session : Session)
    (plain wordy : (Except Fault operation.Answer × Session) × Shared σ τ) : Prop where
  answer : wordy.1.1 = plain.1.1.map (operation.asText codec)
  target : wordy.1.2.target = plain.1.2.target
  tracer : wordy.1.2.tracer = plain.1.2.tracer
  shared : wordy.2 = plain.2
  inserted : ∀ raws, operation.intent = .insert raws → ∀ answer, plain.1.1 = .ok answer →
    ∃ ids, plain.1.2.lastInsert = some ids ∧ wordy.1.2.lastInsert = some (ids.asText codec)
  kept : (∀ raws, operation.intent = .insert raws → ∃ fault, plain.1.1 = .error fault) →
    plain.1.2.lastInsert = session.lastInsert ∧ wordy.1.2.lastInsert = session.lastInsert

theorem readCommand_congr {a b : Options} (target : Namespace)
    (label : a.countLabel = b.countLabel)
    (pipeline : ∀ version, a.pipeline version = b.pipeline version) :
    connection.readCommand target a = connection.readCommand target b := by
  unfold readCommand
  simp only [label, pipeline]

theorem Tells.failed (codec : Codec τ) (fault : Fault) (shared : Shared σ τ) :
    Tells codec operation session ((.error fault, session.plain), shared)
      ((.error fault, session.wordy), shared) where
  answer := rfl
  target := rfl
  tracer := rfl
  shared := rfl
  inserted _ _ _ := nofun
  kept _ := ⟨rfl, rfl⟩

/-- Without identifiers in an answer the two runs are told the same. -/
theorem Tells.alike (codec : Codec τ) (changes : ∀ raws, operation.intent ≠ .insert raws)
    {answer : operation.Answer} (plain : operation.asText codec answer = answer) (tracer : Tracer)
    (shared : Shared σ τ) :
    Tells codec operation session ((.ok answer, { session.plain with tracer }), shared)
      ((.ok answer, { session.wordy with tracer }), shared) where
  answer := congrArg Except.ok plain.symm
  target := rfl
  tracer := rfl
  shared := rfl
  inserted raws inserts := absurd inserts (changes raws)
  kept _ := ⟨rfl, rfl⟩

/-- Plans that differ in the identifiers that they hand out differ in nothing else when they are
carried out. -/
theorem tells_carryOut {first second : Plan operation.Answer}
    (rewords : first.Rewords connection.codec operation second) (shared : Shared σ τ) :
    Tells connection.codec operation session (connection.carryOut session.plain first shared)
      (connection.carryOut session.wordy second shared) := by
  cases rewords with
  | failed fault => exact .failed session connection.codec fault shared
  | settled changes plain => exact .alike session connection.codec changes plain _ shared
  | insert inserts write ids answer =>
      rw [carryOut_write, carryOut_write, session.target_wordy]
      generalize connection.send _ shared = replied
      obtain ⟨reply, after⟩ := replied
      cases reply with
      | error fault => exact .failed session connection.codec fault after
      | ok result =>
          exact {
            answer := rfl
            target := rfl
            tracer := rfl
            shared := rfl
            inserted := fun _ _ _ _ => ⟨ids, rfl, rfl⟩
            kept := fun failed => nomatch (failed _ inserts).choose_spec }
  | write changes write plain =>
      rw [carryOut_write, carryOut_write, session.target_wordy]
      generalize connection.send _ shared = replied
      obtain ⟨reply, after⟩ := replied
      cases reply with
      | error fault => exact .failed session connection.codec fault after
      | ok result => exact .alike session connection.codec changes (plain result) _ after
  | read reads label pipeline plain =>
      have changes : ∀ raws, operation.intent ≠ .insert raws :=
        fun raws inserts => nomatch reads.symm.trans inserts
      -- No pipeline depends on how identifiers are handed out, so one command stands for both.
      rw [carryOut_read, carryOut_read, session.target_wordy,
        connection.readCommand_congr _ label pipeline]
      generalize connection.readCommand _ _ shared = compiled
      obtain ⟨command, between⟩ := compiled
      cases command with
      | error fault => exact .failed session connection.codec fault between
      | ok command =>
          simp only
          generalize connection.send _ between = replied
          obtain ⟨rows, after⟩ := replied
          cases rows with
          | error fault => exact .failed session connection.codec fault after
          | ok rows => exact .alike session connection.codec changes (plain rows) _ after

theorem planRequests_of_rewords {codec : Codec τ} {first second : Plan operation.Answer}
    (rewords : first.Rewords codec operation second) (target : Namespace) (shared : Shared σ τ) :
    connection.planRequests target second shared = connection.planRequests target first shared := by
  cases rewords with
  | read reads label pipeline plain =>
      simp only [planRequests, readCommandRequests, label,
        connection.readCommand_congr target label pipeline]
  | _ => rfl

variable (operation)

theorem onSource_plan_wordy (shared : Shared σ τ) :
    (onSource (session.wordy.plan connection.config connection.primaryKey operation) shared).2 =
      (onSource (session.plain.plan connection.config connection.primaryKey operation) shared).2 :=
  congrArg (fun source => { shared with source })
    (session.source_plan_wordy connection.config connection.primaryKey shared.source operation)

theorem tells_perform (shared : Shared σ τ) :
    Tells connection.codec operation session (connection.perform session.plain operation shared)
      (connection.perform session.wordy operation shared) := by
  simp only [perform_eq, connection.onSource_plan_wordy session]
  have carried := connection.tells_carryOut session (session.rewords_plan connection.config
    connection.primaryKey shared.source operation)
    (onSource (session.plain.plan connection.config connection.primaryKey operation) shared).2
  exact ⟨carried.answer, carried.target, carried.tracer, carried.shared, carried.inserted,
    carried.kept⟩

theorem requests_wordy (shared : Shared σ τ) :
    connection.requests (·.perform session.wordy operation) shared =
      connection.requests (·.perform session.plain operation) shared := by
  rw [requests_perform, requests_perform, operationRequests, operationRequests,
    connection.onSource_plan_wordy session]
  exact connection.planRequests_of_rewords (session.rewords_plan connection.config
    connection.primaryKey shared.source operation) _ _

/-- The identifiers that are remembered have the same texts, where texts are not changed any more by
being handed out. -/
theorem Tells.toTexts_lastInsert {codec : Codec τ} {operation : Operation} {session : Session}
    {plain wordy : (Except Fault operation.Answer × Session) × Shared σ τ}
    (tells : Tells codec operation session plain wordy)
    (settled : ∀ id, codec.toText (.string (codec.toText id)) = codec.toText id) :
    wordy.1.2.lastInsert.map (·.toTexts codec) = plain.1.2.lastInsert.map (·.toTexts codec) := by
  by_cases inserts : ∃ raws, operation.intent = .insert raws
  · obtain ⟨raws, inserts⟩ := inserts
    cases answered : plain.1.1 with
    | ok answer =>
        obtain ⟨ids, before, after⟩ := tells.inserted raws inserts answer answered
        rw [before, after]
        exact congrArg some (InsertedIds.toTexts_asText settled ids)
    | error fault =>
        obtain ⟨before, after⟩ := tells.kept fun _ _ => ⟨fault, answered⟩
        rw [before, after]
  · obtain ⟨before, after⟩ := tells.kept fun raws same => absurd ⟨raws, same⟩ inserts
    rw [before, after]

/-- Whether a session hands out identifiers as texts is seen by nobody but its caller. The requests
are the same, and so are the statement that is kept and the state of everything that sessions share.
The answer is the same fault, or the same answer with texts in the place of identifiers, and the
same holds of the identifiers that are remembered. Of object identifiers the texts that are
remembered are the same. -/
theorem idsAsText_rewords (connection : Connection σ τ) (session : Session) (operation : Operation)
    (shared : Shared σ τ) :
    connection.requests (·.perform (session.edit (.idsAsText true)) operation) shared =
        connection.requests (·.perform (session.edit (.idsAsText false)) operation) shared ∧
      Tells connection.codec operation session
        (connection.perform (session.edit (.idsAsText false)) operation shared)
        (connection.perform (session.edit (.idsAsText true)) operation shared) ∧
      ∀ next, connection.codec = .objectId next →
        (connection.perform (session.edit (.idsAsText true)) operation shared).1.2.lastInsert.map
            (·.toTexts connection.codec) =
          (connection.perform (session.edit (.idsAsText false)) operation shared).1.2.lastInsert.map
            (·.toTexts connection.codec) := by
  have tells := connection.tells_perform session operation shared
  refine ⟨connection.requests_wordy session operation shared, tells, ?_⟩
  intro next objects
  exact tells.toTexts_lastInsert (objects ▸ Codec.toText_toText_objectId next)

/-- One of the two documents has an identifier of its own, which is a number. -/
theorem idsAsText_rewords_of_two :
    let session := recordedConnection.collection "users"
    let shared : Shared Recorder Nat := ⟨{}, 0, none⟩
    let batch : Operation :=
      .insertAll [.singleton "name" (.string "Ann"), .singleton "_id" (.int32 7)]
    let plain := recordedConnection.perform (session.edit (.idsAsText false)) batch shared
    let wordy := recordedConnection.perform (session.edit (.idsAsText true)) batch shared
    recordedConnection.codec = .objectId (fun given => (.ofNat (given + 1), given + 1)) ∧
      plain.1.1 = .ok ⟨2, [.objectId (.ofNat 1), .int32 7]⟩ ∧
      wordy.1.1 = .ok ⟨2, [.string "000000000000000000000001", .string "7"]⟩ ∧
      wordy.1.2.lastInsert.map (·.toTexts recordedConnection.codec) =
        plain.1.2.lastInsert.map (·.toTexts recordedConnection.codec) := by
  intro session shared batch plain wordy
  have objects : recordedConnection.codec =
      .objectId (fun given => (.ofNat (given + 1), given + 1)) := rfl
  have answered : plain.1.1 = .ok ⟨2, [.objectId (.ofNat 1), .int32 7]⟩ := rfl
  obtain ⟨-, tells, texts⟩ := idsAsText_rewords recordedConnection session batch shared
  refine ⟨objects, answered, ?_, texts _ objects⟩
  rw [tells.answer, answered]
  have first : recordedConnection.codec.toText (.objectId (.ofNat 1)) =
      "000000000000000000000001" := by decide +kernel
  have second : recordedConnection.codec.toText (.int32 7) = "7" := by decide +kernel
  simp only [Except.map, Operation.asText, batch, List.map_cons, List.map_nil, first, second]

end Connection

end DocQuery
