import DocQuery.Proofs.Key.Canonical
import DocQuery.Proofs.Session.Reading
import DocQuery.Proofs.Text.Blank

/-!
# What operations are about

There are many operations and few things that are done to a collection: documents are inserted, what
a filter matches is updated or deleted, or rows are read. What an operation is about is its intent;
operations with one intent differ in what they make of the reply only.

Whether an operation comes to be executed can be told from the session and from what the caller
wrote. Some arguments settle the answer by themselves. Otherwise the collection has to be known, and
then each intent has its own flaws. The first fault in this order is the answer, and an operation
without fault is planned as the one write or the one read of its intent.
-/

namespace DocQuery

variable {σ τ : Type}

/-- What is to be done to a collection. -/
inductive Intent where
  | insert (raws : List Document)
  | update (raw : Document)
  | delete
  | read

namespace Operation

def intent : Operation → Intent
  | insert raw => .insert [raw]
  | insertGetId raw => .insert [raw]
  | insertAll raws => .insert raws
  | update raw => .update raw
  | setField field content => .update (.singleton field content)
  | increment field step => .update (Session.incrementOf field step)
  | decrement field step => .update (Session.incrementOf field (-step))
  | delete => .delete
  | select => .read
  | find => .read
  | value _ => .read
  | column _ => .read
  | count => .read
  | page _ => .read

/-- The answer of an operation, where its arguments settle it: the least signed word cannot be
subtracted, and what is no single name of a field has no value. -/
def settled? : (operation : Operation) → Option (Except Fault operation.Answer)
  | decrement field step =>
    if step = Int64.minValue then
      some (.error (.invalidValue ("cannot decrement '" ++ field ++ "' by -9223372036854775808")))
    else none
  | value field =>
    if field.toList.all Text.isBlank ∨ ',' ∈ field.toList then some (.ok none) else none
  | _ => none

end Operation

/-- What is wrong with an intent on a known collection, under a filter. -/
def Intent.flaw? (filter : Document) : Intent → Option Fault
  | insert raws => if raws.all Fields.isEmpty then some .emptyDocument else none
  | update raw =>
    if filter.isEmpty then some (.missingCondition "update")
    else if raw.isEmpty then some .emptyUpdate
    else none
  | delete => if filter.isEmpty then some (.missingCondition "delete") else none
  | read => none

namespace Session

/-- The first fault of an intent: no database, no collection, or a flaw of its own. -/
def fault? (session : Session) (intent : Intent) : Option Fault :=
  if session.target.database = "" then some (.missingDatabase session.target.text)
  else if session.target.collection = "" then some (.missingCollection session.target.text)
  else intent.flaw? session.options.filter

/-- The answer of an operation that is not going to be executed. -/
def verdict? (session : Session) (operation : Operation) :
    Option (Except Fault operation.Answer) :=
  operation.settled? <|> (session.fault? operation.intent).map .error

def write? (session : Session) (key : PrimaryKey τ) (source : τ) : Intent → Option Write
  | .insert raws => some (.insert ((storedEntries key raws source).1.map Prod.snd))
  | .update raw =>
    some (.update session.options.filter (key.sortedUpdate raw source).1.toDocument
      (session.options.limit ≠ some 1) (session.options.upsert.getD false))
  | .delete => some (.remove session.options.filter (session.options.limit = some 1))
  | .read => none

/-- What a read changes in the options before they become a pipeline. -/
def edits (session : Session) (config : Config) (key : PrimaryKey τ) :
    Operation → List Options.Edit
  | .find => [.limit 1]
  | .value field => [projectionOf key (Text.trim field), .limit 1]
  | .column fields => [projectionOf key fields]
  | .count => [.count countLabel]
  | .page number => session.pageEdits config number
  | _ => []

/-- The options whose pipeline a read is. -/
def readOptions (session : Session) (config : Config) (key : PrimaryKey τ)
    (operation : Operation) : Options :=
  session.options.editAll (session.edits config key operation)

end Session

/-- Where an intent leaves the source of identifiers once it is carried out. -/
def Intent.sourceAfter (key : PrimaryKey τ) (source : τ) : Intent → τ
  | insert raws => (Session.storedEntries key raws source).2
  | update raw => (key.sortedUpdate raw source).2
  | delete => source
  | read => source

/-! ## Plans -/

/-- A plan that is made only if there is no fault. -/
def Plan.unless {α : Type} (fault? : Option Fault) (plan : Plan α) : Plan α :=
  match fault? with
  | some fault => .done (.error fault)
  | none => plan

theorem Plan.unless_orElse {α : Type} (first second : Option Fault) (plan : Plan α) :
    Plan.unless (first <|> second) plan = Plan.unless first (Plan.unless second plan) := by
  cases first <;> rfl

namespace Session

variable (session : Session) (config : Config) (key : PrimaryKey τ) (source : τ)

theorem fault?_eq (intent : Intent) :
    session.fault? intent =
      (session.target.fault? <|> intent.flaw? session.options.filter) := by
  by_cases database : session.target.database = "" <;>
    by_cases collection : session.target.collection = "" <;>
      simp [fault?, Namespace.fault?, Namespace.hasDatabase, Namespace.hasCollection, database,
        collection]

theorem fault?_eq_none_iff (intent : Intent) :
    session.fault? intent = none ↔
      session.target.fault? = none ∧ intent.flaw? session.options.filter = none := by
  rw [fault?_eq]
  cases session.target.fault? <;> simp

/-- A plan on the collection of the session that is made unless the intent is flawed. -/
theorem onTarget_eq {α : Type} {intent : Intent} {step : StateM τ (Plan α)} {plan : Plan α}
    (planned : (step source).1 = Plan.unless (intent.flaw? session.options.filter) plan) :
    (session.onTarget step source).1 = Plan.unless (session.fault? intent) plan := by
  rw [fault?_eq, Plan.unless_orElse, ← planned, onTarget]
  cases session.target.fault? <;> rfl

theorem planInsert_eq {α : Type} (raw : Document) (answer : WriteResult → Value → α) :
    (session.planInsert key raw answer source).1 =
      Plan.unless (session.fault? (.insert [raw]))
        (let entry := (storedEntry key raw source).1
        let id := session.present key.codec entry.1
        .write (.insert [entry.2]) (some (.one id)) fun result => answer result id) := by
  apply onTarget_eq
  cases empty : raw.isEmpty with
  | true =>
      simp only [bind, StateT.bind, stored?_of_isEmpty key empty, Intent.flaw?, List.all_cons,
        List.all_nil, empty, Bool.and_self, if_true]
      rfl
  | false =>
      simp only [bind, StateT.bind, stored?_of_fields key empty, Intent.flaw?, List.all_cons,
        List.all_nil, empty, Bool.and_true, Bool.false_eq_true, if_false]
      rfl

theorem planInsertAll_eq (raws : List Document) :
    (session.planInsertAll key raws source).1 =
      Plan.unless (session.fault? (.insert raws))
        (let entries := (storedEntries key raws source).1
        let ids := entries.map fun entry => session.present key.codec entry.1
        .write (.insert (entries.map Prod.snd)) (some (.many ids)) fun result =>
          ⟨result.inserted, ids⟩) := by
  apply onTarget_eq
  have entries := congrArg Prod.fst (storedEntries_eq key raws source)
  have none := isEmpty_storedEntries key raws source
  simp only [bind, StateT.bind, Intent.flaw?]
  simp only at entries
  rw [entries] at none ⊢
  generalize raws.mapM (stored? key) source = stored at none ⊢
  obtain ⟨found, after⟩ := stored
  simp only [← none]
  cases (found.filterMap id).isEmpty <;> rfl

theorem planUpdate_eq (raw : Document) :
    (session.planUpdate key raw source).1 =
      Plan.unless (session.fault? (.update raw))
        (.write
          (.update session.options.filter (key.sortedUpdate raw source).1.toDocument
            (session.options.limit ≠ some 1) (session.options.upsert.getD false))
          none WriteResult.matched) := by
  apply onTarget_eq
  have multi : (!session.justOne) = decide (session.options.limit ≠ some 1) := by
    rw [justOne, decide_not]
  simp only [Intent.flaw?]
  cases everything : session.options.filter.isEmpty with
  | true => rfl
  | false =>
      simp only [Bool.false_eq_true, if_false, bind, StateT.bind, key.canonicalUpdate_eq, multi]
      cases raw.isEmpty <;> rfl

theorem planDelete_eq :
    ((session.planDelete : StateM τ (Plan UInt64)) source).1 =
      Plan.unless (session.fault? .delete)
        (.write (.remove session.options.filter (session.options.limit = some 1)) none
          WriteResult.deleted) := by
  apply onTarget_eq
  simp only [Intent.flaw?]
  cases session.options.filter.isEmpty <;> rfl

theorem planRead_eq {α : Type} (edits : List Options.Edit) (answer : List Document → α) :
    (session.planRead edits answer source).1 =
      Plan.unless (session.fault? .read) (.read (session.options.editAll edits) answer) := by
  apply onTarget_eq
  rfl

/-- A single document that is inserted without fault has fields. -/
theorem isEmpty_of_faultless {raw : Document} (faultless : session.fault? (.insert [raw]) = none) :
    raw.isEmpty = false := by
  have flawless := ((session.fault?_eq_none_iff _).mp faultless).2
  cases empty : raw.isEmpty with
  | false => rfl
  | true => simp [Intent.flaw?, empty] at flawless

/-- Of one document with fields one document is stored. -/
theorem write?_insert {raw : Document} (accepted : session.fault? (.insert [raw]) = none) :
    session.write? key source (.insert [raw]) =
      some (.insert [(storedEntry key raw source).1.2]) := by
  have fields := session.isEmpty_of_faultless accepted
  rw [write?, storedEntries, List.filter_cons_of_pos (by simp [fields])]
  rfl

variable {operation : Operation}

theorem namesNoField_iff (field : String) :
    (Text.trim field = "" ∨ ',' ∈ (Text.trim field).toList) ↔
      field.toList.all Text.isBlank ∨ ',' ∈ field.toList := by
  have comma : Text.isBlank ',' = false := by decide
  rw [Text.trim_eq_empty_iff, Text.toList_trim, Text.mem_trimChars comma, List.all_eq_true]

theorem plan_of_settled {answer : Except Fault operation.Answer}
    (settled : operation.settled? = some answer) :
    (session.plan config key operation source).1 = .done answer := by
  cases operation with
  | decrement field step =>
      rw [Operation.settled?] at settled
      split at settled
      · rename_i least
        cases settled
        have text : Text.Numeral.ofInt Int64.minValue.toInt = "-9223372036854775808" := by decide
        rw [plan, if_pos least, least, text, String.append_assoc]
        rfl
      · contradiction
  | value field =>
      rw [Operation.settled?] at settled
      split at settled
      · rename_i none
        cases settled
        rw [plan, if_pos ((namesNoField_iff field).mpr none)]
        rfl
      · contradiction
  | _ => nomatch settled

/-- An operation that reads is planned as a read with the options that it changes. -/
theorem plan_eq_planRead (reads : operation.intent = .read)
    (unsettled : operation.settled? = none) :
    ∃ answer, session.plan config key operation =
      session.planRead (session.edits config key operation) answer := by
  cases operation with
  | select => exact ⟨_, rfl⟩
  | find => exact ⟨_, rfl⟩
  | value field =>
      rw [Operation.settled?] at unsettled
      split at unsettled
      · contradiction
      · rename_i named
        rw [plan, if_neg fun none => named ((namesNoField_iff field).mp none)]
        exact ⟨_, rfl⟩
  | column fields => exact ⟨_, rfl⟩
  | count => exact ⟨_, rfl⟩
  | page number => exact ⟨_, rfl⟩
  | _ => nomatch reads

/-- A plan does what its operation is about: the write of the intent, or a read. -/
inductive Does (operation : Operation) : Plan operation.Answer → Prop where
  | write {write : Write} {ids : Option InsertedIds} {answer : WriteResult → operation.Answer}
      (meant : session.write? key source operation.intent = some write) :
      Does operation (.write write ids answer)
  | read {answer : List Document → operation.Answer} (meant : operation.intent = .read) :
      Does operation (.read (session.readOptions config key operation) answer)

/-- An operation whose arguments do not settle it is planned unless its intent has a fault. -/
theorem exists_plan_eq (unsettled : operation.settled? = none) :
    ∃ planned, (session.plan config key operation source).1 =
        Plan.unless (session.fault? operation.intent) planned ∧
      (session.fault? operation.intent = none →
        session.Does config key source operation planned) := by
  cases operation with
  | insert raw =>
      exact ⟨_, session.planInsert_eq key source raw _, fun accepted =>
        .write (session.write?_insert key source accepted)⟩
  | insertGetId raw =>
      exact ⟨_, session.planInsert_eq key source raw _, fun accepted =>
        .write (session.write?_insert key source accepted)⟩
  | insertAll raws =>
      exact ⟨_, session.planInsertAll_eq key source raws, fun _ => .write rfl⟩
  | update raw => exact ⟨_, session.planUpdate_eq key source raw, fun _ => .write rfl⟩
  | setField field content => exact ⟨_, session.planUpdate_eq key source _, fun _ => .write rfl⟩
  | increment field step => exact ⟨_, session.planUpdate_eq key source _, fun _ => .write rfl⟩
  | decrement field step =>
      rw [Operation.settled?] at unsettled
      split at unsettled
      · contradiction
      · rename_i negatable
        rw [plan, if_neg negatable]
        exact ⟨_, session.planUpdate_eq key source _, fun _ => .write rfl⟩
  | delete => exact ⟨_, session.planDelete_eq source, fun _ => .write rfl⟩
  | _ =>
      obtain ⟨answer, planned⟩ := session.plan_eq_planRead config key rfl unsettled
      rw [planned]
      exact ⟨_, session.planRead_eq source _ answer, fun _ => .read rfl⟩

/-- With a verdict nothing is left to do. -/
theorem plan_of_verdict {answer : Except Fault operation.Answer}
    (verdict : session.verdict? operation = some answer) :
    (session.plan config key operation source).1 = .done answer := by
  rw [verdict?] at verdict
  cases settled : operation.settled? with
  | some given =>
      rw [settled] at verdict
      cases verdict
      exact session.plan_of_settled config key source settled
  | none =>
      obtain ⟨planned, same, -⟩ := session.exists_plan_eq config key source settled
      cases found : session.fault? operation.intent with
      | none =>
          rw [settled, found] at verdict
          contradiction
      | some fault =>
          rw [settled, found] at verdict
          cases verdict
          rw [same, found]
          rfl

theorem unsettled_of_verdict?_eq_none (accepted : session.verdict? operation = none) :
    operation.settled? = none ∧ session.fault? operation.intent = none := by
  rw [verdict?] at accepted
  cases settled : operation.settled? with
  | some given =>
      rw [settled] at accepted
      contradiction
  | none =>
      rw [settled] at accepted
      exact ⟨rfl, Option.map_eq_none_iff.mp accepted⟩

/-- Without a verdict the plan does what the operation is about. -/
theorem does_plan (accepted : session.verdict? operation = none) :
    session.Does config key source operation (session.plan config key operation source).1 := by
  obtain ⟨unsettled, faultless⟩ := session.unsettled_of_verdict?_eq_none accepted
  obtain ⟨planned, same, does⟩ := session.exists_plan_eq config key source unsettled
  rw [same, faultless]
  exact does faultless

/-- An operation without a verdict has a collection. -/
theorem resolved_of_verdict?_eq_none (accepted : session.verdict? operation = none) :
    session.target.fault? = none :=
  ((session.fault?_eq_none_iff _).mp (session.unsettled_of_verdict?_eq_none accepted).2).1

/-- A read other than a count does not count. -/
theorem countLabel_readOptions (uncounted : session.options.countLabel = none)
    (plain : operation ≠ .count) :
    (session.readOptions config key operation).countLabel = none := by
  cases operation with
  | count => exact absurd rfl plain
  | _ =>
      simp only [Session.readOptions, Session.edits, Session.projectionOf, Session.pageEdits,
        Options.editAll_cons, Options.editAll_nil, Options.edit, uncounted]

/-! ## The source of identifiers -/

/-- A step on the collection of the session draws nothing if its intent has a fault. -/
theorem source_onTarget_eq {α : Type} {intent : Intent} {step : StateM τ (Plan α)} {after : τ}
    (drawn : (step source).2 =
      if (intent.flaw? session.options.filter).isSome then source else after) :
    (session.onTarget step source).2 =
      if (session.fault? intent).isSome then source else after := by
  rw [fault?_eq, onTarget]
  cases session.target.fault? with
  | some fault => rfl
  | none => exact drawn

theorem source_planInsertAll_eq (raws : List Document) :
    (session.planInsertAll key raws source).2 =
      if (session.fault? (.insert raws)).isSome then source
      else (storedEntries key raws source).2 := by
  apply source_onTarget_eq
  have drawn : (if ((Intent.insert raws).flaw? session.options.filter).isSome then source
      else (storedEntries key raws source).2) = (raws.mapM (stored? key) source).2 := by
    rw [← congrArg Prod.snd (storedEntries_eq key raws source)]
    cases empty : raws.all Fields.isEmpty with
    | true => simp [Intent.flaw?, empty, storedEntries_of_all_isEmpty key empty]
    | false => simp [Intent.flaw?, empty]
  rw [drawn]
  simp only [bind, StateT.bind]
  generalize raws.mapM (stored? key) source = stored
  obtain ⟨entries, after⟩ := stored
  simp only
  split <;> rfl

theorem source_planInsert_eq {α : Type} (raw : Document) (answer : WriteResult → Value → α) :
    (session.planInsert key raw answer source).2 =
      if (session.fault? (.insert [raw])).isSome then source
      else (storedEntries key [raw] source).2 := by
  apply source_onTarget_eq
  cases empty : raw.isEmpty with
  | true =>
      simp only [bind, StateT.bind, stored?_of_isEmpty key empty, Intent.flaw?, List.all_cons,
        List.all_nil, empty, Bool.and_self, if_true]
      rfl
  | false =>
      simp only [bind, StateT.bind, stored?_of_fields key empty, Intent.flaw?, List.all_cons,
        List.all_nil, empty, Bool.and_true, Bool.false_eq_true, if_false]
      rw [storedEntries_cons_of_fields key empty]
      rfl

theorem source_planUpdate_eq (raw : Document) :
    (session.planUpdate key raw source).2 =
      if (session.fault? (.update raw)).isSome then source
      else (key.sortedUpdate raw source).2 := by
  apply source_onTarget_eq
  by_cases everything : session.options.filter.isEmpty
  · simp only [Intent.flaw?, everything, if_true]
    rfl
  · simp only [Intent.flaw?, everything, Bool.false_eq_true, if_false, bind, StateT.bind,
      key.canonicalUpdate_eq]
    cases empty : raw.isEmpty with
    | true =>
        rw [Fields.isEmpty_iff.mp empty]
        rfl
    | false => rfl

theorem source_planDelete_eq :
    ((session.planDelete : StateM τ (Plan UInt64)) source).2 =
      if (session.fault? .delete).isSome then source else source := by
  apply source_onTarget_eq
  by_cases everything : session.options.filter.isEmpty
  · simp only [Intent.flaw?, everything, if_true]
    rfl
  · simp only [Intent.flaw?, everything, Bool.false_eq_true, if_false]
    rfl

theorem source_planRead_eq {α : Type} (edits : List Options.Edit) (answer : List Document → α) :
    (session.planRead edits answer source).2 =
      if (session.fault? .read).isSome then source else source :=
  source_onTarget_eq session source rfl

theorem source_plan_of_settled {operation : Operation} {answer : Except Fault operation.Answer}
    (settled : operation.settled? = some answer) :
    (session.plan config key operation source).2 = source := by
  cases operation with
  | decrement field step =>
      rw [Operation.settled?] at settled
      split at settled
      · rename_i least
        rw [plan, if_pos least]
        rfl
      · contradiction
  | value field =>
      rw [Operation.settled?] at settled
      split at settled
      · rename_i none
        rw [plan, if_pos ((namesNoField_iff field).mpr none)]
        rfl
      · contradiction
  | _ => nomatch settled

/-- Planning draws what the intent is carried out with, and nothing if there is a verdict. -/
theorem source_plan (operation : Operation) :
    (session.plan config key operation source).2 =
      if (session.verdict? operation).isSome then source
      else operation.intent.sourceAfter key source := by
  cases settled : operation.settled? with
  | some answer =>
      rw [session.source_plan_of_settled config key source settled, verdict?, settled]
      rfl
  | none =>
      have refused : (session.verdict? operation).isSome =
          (session.fault? operation.intent).isSome := by
        rw [verdict?, settled]
        exact Option.isSome_map
      rw [refused]
      cases operation with
      | insert raw => exact session.source_planInsert_eq key source raw _
      | insertGetId raw => exact session.source_planInsert_eq key source raw _
      | insertAll raws => exact session.source_planInsertAll_eq key source raws
      | update raw => exact session.source_planUpdate_eq key source raw
      | setField field content => exact session.source_planUpdate_eq key source _
      | increment field step => exact session.source_planUpdate_eq key source _
      | decrement field step =>
          rw [Operation.settled?] at settled
          split at settled
          · contradiction
          · rename_i negatable
            rw [plan, if_neg negatable]
            exact session.source_planUpdate_eq key source _
      | delete => exact session.source_planDelete_eq source
      | _ =>
          obtain ⟨answer, planned⟩ := session.plan_eq_planRead config key rfl settled
          rw [planned]
          exact session.source_planRead_eq source _ answer

end Session

end DocQuery
