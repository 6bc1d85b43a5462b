import DocQuery.Proofs.Document.Fields
import DocQuery.Proofs.Session.Requests
import DocQuery.Proofs.Traversal

/-!
# Guarded writes

A write without a filter would reach the whole collection, and an update without operators would
replace documents. Sessions send neither: every bulk write of every run goes to a named collection
with the configured write concern, and holds inserts only, or one update, or one delete, each of
which says what it is about.

The guards are spread over planning. What each of them makes sure of is stated for the plan that it
lets through, and requests are read off plans.
-/

namespace DocQuery

variable {σ τ : Type}

/-- The document says for operators which fields they apply to. The server takes anything else in
the place of an update for a whole new document. -/
structure IsOperatorUpdate (change : Document) : Prop where
  nonempty : change.isEmpty = false
  operators : ∀ entry ∈ change.entries, entry.1.toList.head? = some '$'
  operands : ∀ entry ∈ change.entries,
    ∃ fields : Document, entry.2 = .document fields ∧ fields.isEmpty = false

/-- What an operation says before it is sent. -/
def WriteOperation.Guarded : WriteOperation → Prop
  | .insert document => document.isEmpty = false ∧ "_id" ∈ document.names
  | .update filter change _ _ => filter.isEmpty = false ∧ IsOperatorUpdate change
  | .delete filter _ => filter.isEmpty = false

/-- What a bulk write is like that may be sent under a configuration. -/
structure BulkWrite.Guarded (config : Config) (bulk : BulkWrite) : Prop where
  database : bulk.target.database ≠ ""
  collection : bulk.target.collection ≠ ""
  concern : bulk.concern = config.writeConcern
  nonempty : bulk.operations ≠ []
  kind : (∀ operation ∈ bulk.operations, ∃ document, operation = .insert document) ∨
    (∃ filter change multi upsert, bulk.operations = [.update filter change multi upsert]) ∨
    ∃ filter justOne, bulk.operations = [.delete filter justOne]
  operations : ∀ operation ∈ bulk.operations, operation.Guarded

/-! ## Updates -/

namespace FieldUpdate

theorem isOperator_defaultOperator : isOperator defaultOperator = true := by decide

/-- Whatever a value looks like, it is sorted under an operator. -/
theorem isOperator_parts_ofValue (value : Value) : isOperator (ofValue value).parts.1 = true := by
  unfold ofValue
  split
  · rename_i name operand
    by_cases operator : isOperator name
    · rw [if_pos operator]
      exact operator
    · rw [if_neg operator]
      exact isOperator_defaultOperator
  · exact isOperator_defaultOperator

end FieldUpdate

namespace UpdateDocument

/-- Operators are names of operators, and each has fields. -/
def Sorted (update : UpdateDocument) : Prop :=
  ∀ entry ∈ update.operators.entries, entry.1.toList.head? = some '$' ∧ entry.2.isEmpty = false

theorem sorted_empty : empty.Sorted := by
  intro entry member
  exact absurd member List.not_mem_nil

/-- Each operand is added to the fields of its operator, which are never left without it. -/
theorem Sorted.add {update : UpdateDocument} (sorted : update.Sorted) {operator : String}
    (named : operator.toList.head? = some '$') (field : String) (operand : Value) :
    (update.add operator field operand).Sorted := by
  intro entry member
  rcases Fields.mem_entries_insert member with rfl | old
  · exact ⟨named, Fields.isEmpty_insert _ _ _⟩
  · exact sorted entry old

theorem Sorted.isOperatorUpdate {update : UpdateDocument} (sorted : update.Sorted)
    (nonempty : update.isEmpty = false) : IsOperatorUpdate update.toDocument where
  nonempty := by simpa [toDocument, isEmpty] using nonempty
  operators := by
    intro entry member
    obtain ⟨operator, inside, rfl⟩ := List.mem_map.mp member
    exact (sorted operator inside).1
  operands := by
    intro entry member
    obtain ⟨operator, inside, rfl⟩ := List.mem_map.mp member
    exact ⟨operator.2, rfl, (sorted operator inside).2⟩

end UpdateDocument

namespace PrimaryKey

variable (key : PrimaryKey τ)

theorem sorted_addEntry {update : UpdateDocument} (sorted : update.Sorted) (entry : String × Value)
    (source : τ) : (key.addEntry update entry source).1.Sorted :=
  sorted.add (of_decide_eq_true (FieldUpdate.isOperator_parts_ofValue entry.2)) _ _

/-- An update that is accepted holds operators only, each of them with fields. -/
theorem isOperatorUpdate_of_canonicalUpdate {raw : Document} {source : τ}
    {update : UpdateDocument} (accepted : (key.canonicalUpdate raw source).1 = .ok update) :
    IsOperatorUpdate update.toDocument := by
  have sorted : (raw.entries.foldlM key.addEntry .empty source).1.Sorted :=
    Traversal.foldlM_invariant UpdateDocument.Sorted
      (fun _ entry source sorted => key.sorted_addEntry sorted entry source)
      raw.entries .empty source UpdateDocument.sorted_empty
  change (if UpdateDocument.isEmpty _ then Except.error _ else Except.ok _) = _ at accepted
  split at accepted
  · contradiction
  · rename_i nonempty
    cases accepted
    exact sorted.isOperatorUpdate (by simpa using nonempty)

end PrimaryKey

/-! ## Inserts -/

theorem BulkWrite.mem_names_identify (codec : Codec τ) (document : Document) (source : τ) :
    "_id" ∈ (identify codec document source).1.2.names := by
  unfold identify
  cases found : document.get? idField with
  | some id => exact Fields.mem_names_of_get? found
  | none => exact Fields.mem_names_insertAll.mpr (.inl List.mem_cons_self)

/-- A document that is stored has an identifier. -/
theorem Session.mem_names_of_stored? {key : PrimaryKey τ} {raw : Document} {source : τ}
    {entry : Value × Document} (stored : (Session.stored? key raw source).1 = some entry) :
    "_id" ∈ entry.2.names := by
  simp only [Session.stored?, bind, StateT.bind] at stored
  generalize key.canonicalInsert raw source = canonical at stored
  obtain ⟨result, after⟩ := canonical
  cases result with
  | error fault => contradiction
  | ok document =>
      cases stored
      exact BulkWrite.mem_names_identify _ _ _

/-! ## Plans -/

theorem Namespace.fault?_eq_none_iff {target : Namespace} :
    target.fault? = none ↔ target.database ≠ "" ∧ target.collection ≠ "" := by
  by_cases database : target.database = "" <;> by_cases collection : target.collection = "" <;>
    simp [fault?, hasDatabase, hasCollection, database, collection]

/-- What a write is like that is sent. -/
def Write.Guarded : Write → Prop
  | .insert documents => documents ≠ [] ∧ ∀ document ∈ documents, "_id" ∈ document.names
  | .update filter change _ _ => filter.isEmpty = false ∧ IsOperatorUpdate change
  | .remove filter _ => filter.isEmpty = false

theorem Write.Guarded.bulk {write : Write} (guarded : write.Guarded) {target : Namespace}
    (resolved : target.fault? = none) (config : Config) :
    (write.bulk target config.writeConcern).Guarded config := by
  obtain ⟨database, collection⟩ := Namespace.fault?_eq_none_iff.mp resolved
  cases write with
  | insert documents =>
      refine ⟨database, collection, rfl, ?_, .inl ?_, ?_⟩
      · simpa [Write.bulk, operations] using guarded.1
      · intro operation member
        obtain ⟨document, -, rfl⟩ := List.mem_map.mp member
        exact ⟨document, rfl⟩
      · intro operation member
        obtain ⟨document, inside, rfl⟩ := List.mem_map.mp member
        have identified := guarded.2 document inside
        exact ⟨Fields.isEmpty_of_mem_names identified, identified⟩
  | update filter change multi upsert =>
      refine ⟨database, collection, rfl, List.cons_ne_nil _ _,
        .inr (.inl ⟨filter, change, multi, upsert, rfl⟩), ?_⟩
      intro operation member
      obtain rfl := List.mem_singleton.mp member
      exact guarded
  | remove filter justOne =>
      refine ⟨database, collection, rfl, List.cons_ne_nil _ _,
        .inr (.inr ⟨filter, justOne, rfl⟩), ?_⟩
      intro operation member
      obtain rfl := List.mem_singleton.mp member
      exact guarded

/-- If a plan writes, the collection is known and the write is guarded. -/
def Plan.Guarded {α : Type} (target : Namespace) : Plan α → Prop
  | .write sent _ _ => target.fault? = none ∧ sent.Guarded
  | .done _ => True
  | .read _ _ => True

namespace Session

variable (session : Session) (key : PrimaryKey τ)

theorem guarded_onTarget {α : Type} {plan : StateM τ (Plan α)} {source : τ}
    (planned : session.target.fault? = none → (plan source).1.Guarded session.target) :
    (session.onTarget plan source).1.Guarded session.target := by
  rw [onTarget]
  cases resolved : session.target.fault? with
  | some fault => trivial
  | none => exact planned resolved

theorem guarded_planInsert {α : Type} (raw : Document) (answer : WriteResult → Value → α)
    (source : τ) : (session.planInsert key raw answer source).1.Guarded session.target := by
  apply guarded_onTarget
  intro resolved
  simp only [bind, StateT.bind]
  have identified : ∀ entry, (stored? key raw source).1 = some entry → "_id" ∈ entry.2.names :=
    fun _ => mem_names_of_stored?
  generalize stored? key raw source = stored at identified ⊢
  obtain ⟨entry, after⟩ := stored
  cases entry with
  | none => trivial
  | some entry =>
      refine ⟨resolved, List.cons_ne_nil _ _, ?_⟩
      intro document member
      obtain rfl := List.mem_singleton.mp member
      exact identified entry rfl

theorem guarded_planInsertAll (raws : List Document) (source : τ) :
    (session.planInsertAll key raws source).1.Guarded session.target := by
  apply guarded_onTarget
  intro resolved
  simp only [bind, StateT.bind]
  have identified : ∀ entry ∈ ((raws.mapM (stored? key) source).1.filterMap id),
      "_id" ∈ entry.2.names := by
    intro entry member
    obtain ⟨stored, inside, found⟩ := List.mem_filterMap.mp member
    obtain ⟨raw, -, between, result⟩ := Traversal.exists_of_mem_mapM inside
    exact mem_names_of_stored? (result.trans found)
  generalize raws.mapM (stored? key) source = stored at identified ⊢
  obtain ⟨entries, after⟩ := stored
  by_cases none : (entries.filterMap id).isEmpty
  · simp only [none, if_true]
    trivial
  · simp only [none, Bool.false_eq_true, if_false]
    refine ⟨resolved, by simpa using none, ?_⟩
    intro document member
    obtain ⟨entry, inside, rfl⟩ := List.mem_map.mp member
    exact identified entry inside

theorem guarded_planUpdate (raw : Document) (source : τ) :
    (session.planUpdate key raw source).1.Guarded session.target := by
  apply guarded_onTarget
  intro resolved
  by_cases everything : session.options.filter.isEmpty
  · simp only [everything, if_true]
    trivial
  · simp only [everything, Bool.false_eq_true, if_false, bind, StateT.bind]
    have operators : ∀ update, (key.canonicalUpdate raw source).1 = .ok update →
        IsOperatorUpdate update.toDocument := fun _ => key.isOperatorUpdate_of_canonicalUpdate
    generalize key.canonicalUpdate raw source = canonical at operators ⊢
    obtain ⟨result, after⟩ := canonical
    cases result with
    | error fault => trivial
    | ok update => exact ⟨resolved, Bool.eq_false_iff.mpr everything, operators update rfl⟩

theorem guarded_planDelete (source : τ) :
    ((session.planDelete : StateM τ (Plan UInt64)) source).1.Guarded session.target := by
  apply guarded_onTarget
  intro resolved
  by_cases everything : session.options.filter.isEmpty
  · simp only [everything, if_true]
    trivial
  · simp only [everything, Bool.false_eq_true, if_false]
    exact ⟨resolved, Bool.eq_false_iff.mpr everything⟩

theorem guarded_planRead {α : Type} (edits : List Options.Edit) (answer : List Document → α)
    (source : τ) : (session.planRead edits answer source).1.Guarded session.target := by
  apply guarded_onTarget
  intro _
  trivial

/-- Every plan of every operation is guarded, whatever the options of the session. -/
theorem guarded_plan (config : Config) (operation : Operation) (source : τ) :
    (session.plan config key operation source).1.Guarded session.target := by
  cases operation with
  | insert raw => exact guarded_planInsert session key raw _ source
  | insertGetId raw => exact guarded_planInsert session key raw _ source
  | insertAll raws => exact guarded_planInsertAll session key raws source
  | update raw => exact guarded_planUpdate session key raw source
  | setField field value => exact guarded_planUpdate session key _ source
  | increment field step => exact guarded_planUpdate session key _ source
  | decrement field step =>
      by_cases least : step = Int64.minValue
      · rw [plan, if_pos least]
        trivial
      · rw [plan, if_neg least]
        exact guarded_planUpdate session key _ source
  | delete => exact guarded_planDelete session source
  | select => exact guarded_planRead session _ _ source
  | find => exact guarded_planRead session _ _ source
  | value field =>
      by_cases single : Text.trim field = "" ∨ ',' ∈ (Text.trim field).toList
      · rw [plan, if_pos single]
        trivial
      · rw [plan, if_neg single]
        exact guarded_planRead session _ _ source
  | column fields => exact guarded_planRead session _ _ source
  | count => exact guarded_planRead session _ _ source
  | page number => exact guarded_planRead session _ _ source

end Session

/-! ## Runs -/

namespace Connection

/-- Only a plan that writes sends a bulk write, and it sends the one of its write. -/
theorem of_bulkWrite_mem_planRequests {α : Type} {connection : Connection σ τ} {target : Namespace}
    {plan : Plan α} {shared : Shared σ τ} {bulk : BulkWrite}
    (sent : Request.bulkWrite bulk ∈ connection.planRequests target plan shared) :
    ∃ write ids answer, plan = .write write ids answer ∧
      bulk = write.bulk target connection.config.writeConcern := by
  cases plan with
  | done answer => exact absurd sent List.not_mem_nil
  | write write ids answer =>
      cases List.mem_singleton.mp sent
      exact ⟨write, ids, answer, rfl, rfl⟩
  | read options answer =>
      rcases List.mem_append.mp sent with asked | commanded
      · cases eq_version_of_mem_readCommandRequests asked
      · split at commanded
        · exact absurd commanded List.not_mem_nil
        · cases List.mem_singleton.mp commanded

theorem guarded_of_mem_operationRequests {connection : Connection σ τ} {session : Session}
    {operation : Operation} {shared : Shared σ τ} {bulk : BulkWrite}
    (sent : Request.bulkWrite bulk ∈ connection.operationRequests session operation shared) :
    bulk.Guarded connection.config := by
  have guarded := session.guarded_plan connection.primaryKey connection.config operation
    shared.source
  obtain ⟨write, ids, answer, planned, rfl⟩ := of_bulkWrite_mem_planRequests sent
  change (session.plan connection.config connection.primaryKey operation shared.source).1 = _
    at planned
  rw [planned] at guarded
  exact guarded.2.bulk guarded.1 connection.config

end Connection

namespace Workspace

theorem guarded_of_mem_stepRequests {connection : Connection σ τ} {workspace : Workspace σ τ}
    {step : Step} {bulk : BulkWrite}
    (sent : Request.bulkWrite bulk ∈ workspace.stepRequests connection step) :
    bulk.Guarded connection.config := by
  cases step with
  | openSession name collection => exact absurd sent List.not_mem_nil
  | set name setting => exact absurd sent List.not_mem_nil
  | perform name operation =>
      rw [stepRequests] at sent
      cases found : workspace.session? name with
      | none =>
          rw [found] at sent
          exact absurd sent List.not_mem_nil
      | some session =>
          rw [found] at sent
          exact Connection.guarded_of_mem_operationRequests sent

/-- Every bulk write of every run is guarded: it goes to a named collection under the configured
write concern, and can neither touch a whole collection nor replace documents. -/
theorem guarded_of_mem_requests (connection : Connection σ τ) (workspace : Workspace σ τ)
    (steps : List Step) {bulk : BulkWrite}
    (sent : Request.bulkWrite bulk ∈ workspace.requests connection steps) :
    bulk.Guarded connection.config := by
  induction steps generalizing workspace with
  | nil => exact absurd sent List.not_mem_nil
  | cons next steps ih =>
      rw [requests_cons] at sent
      rcases List.mem_append.mp sent with first | later
      · exact guarded_of_mem_stepRequests first
      · exact ih _ later

/-- The update is sent after an insert that the executor has failed to answer. -/
theorem guarded_update_after_failed_insert :
    let bulk : BulkWrite :=
      ⟨⟨"app", "users"⟩,
       [.update (.singleton "name" (.string "Ann"))
         (.singleton "$inc" (.document (.singleton "age" (.int64 1)))) true false],
       some { acknowledgment := .majority }⟩
    let workspace : Workspace Recorder Nat := ⟨⟨{ failure := some "out of reach" }, 0, none⟩, ∅⟩
    let steps : List Step :=
      [.openSession "q" "users", .perform "q" (.insertAll [∅, .singleton "age" (.int32 3)]),
       .set "q" (.filter (.singleton " name" (.string "Ann"))), .perform "q" (.increment "age" 1)]
    Request.bulkWrite bulk ∈ workspace.requests recordedConnection steps ∧
      bulk.Guarded recordedConnection.config := by
  intro bulk workspace steps
  have sent : Request.bulkWrite bulk ∈ workspace.requests recordedConnection steps := by
    have requests : workspace.requests recordedConnection steps =
        [.bulkWrite ⟨⟨"app", "users"⟩,
           [.insert ⟨[("_id", .objectId (.ofNat 1)), ("age", .int32 3)]⟩],
           some { acknowledgment := .majority }⟩,
         .bulkWrite bulk] := rfl
    exact requests ▸ List.mem_cons_of_mem _ List.mem_cons_self
  exact ⟨sent, guarded_of_mem_requests recordedConnection workspace steps sent⟩

end Workspace

end DocQuery
