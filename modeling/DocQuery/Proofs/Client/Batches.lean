import DocQuery.Client.ScriptedServer
import DocQuery.Proofs.Client.Exchanges
import Mathlib.Data.List.Chain

/-!
# Bulk writes as calls

A bulk write becomes calls in one way only: neighbouring inserts go together into one call, as many
of them as stand next to each other, and every other operation is a call of its own. Read back, the
calls are the operations in their order, so none is lost, repeated or moved.

A client does not know these calls beforehand: it goes through the operations once, and holds back
the inserts that it has met since its last call. At each operation, what is left to be done are the
calls for the inserts that are held back, followed by the operations that are still to come.

The calls are made as long as the driver answers. The result of a bulk write is the sum of what its
calls report; if one of them fails, it is the last that is made, and its fault is the outcome.
-/

namespace DocQuery

variable {σ : Type}

namespace Call

/-- The operations of a bulk write that a call carries out. -/
def operations : Call → List WriteOperation
  | insertMany _ documents _ _ => documents.map .insert
  | update _ filter change multi upsert _ => [.update filter change multi upsert]
  | delete _ filter justOne _ => [.delete filter justOne]
  | aggregate .. => []
  | runCommand .. => []

def Inserts : Call → Prop
  | insertMany .. => True
  | update .. => False
  | delete .. => False
  | aggregate .. => False
  | runCommand .. => False

/-- A call that writes to a collection under a write concern. Inserts are ordered, and there is
something to be inserted. -/
inductive Writes (target : Namespace) (concern : Option DriverConcern) : Call → Prop where
  | insertMany {documents : List Document} (nonempty : documents ≠ []) :
      Writes target concern (.insertMany target documents true concern)
  | update (filter change : Document) (multi upsert : Bool) :
      Writes target concern (.update target filter change multi upsert concern)
  | delete (filter : Document) (justOne : Bool) :
      Writes target concern (.delete target filter justOne concern)

end Call

/-- The calls carry out the operations in their order, and inserts that stand next to each other are
carried out together. -/
structure Batches (target : Namespace) (concern : Option DriverConcern)
    (operations : List WriteOperation) (calls : List Call) : Prop where
  complete : calls.flatMap Call.operations = operations
  writes : ∀ call ∈ calls, call.Writes target concern
  maximal : calls.IsChain fun first second => ¬ (first.Inserts ∧ second.Inserts)

namespace Client

/-- Puts an insert in front of calls: into the first of them, if it inserts too. -/
def consInsert (target : Namespace) (concern : Option DriverConcern) (document : Document) :
    List Call → List Call
  | .insertMany _ documents _ _ :: calls =>
    .insertMany target (document :: documents) true concern :: calls
  | calls => .insertMany target [document] true concern :: calls

/-- The calls for the operations of a bulk write. -/
def calls (target : Namespace) (concern : Option DriverConcern) : List WriteOperation → List Call
  | [] => []
  | .insert document :: operations =>
    consInsert target concern document (calls target concern operations)
  | .update filter change multi upsert :: operations =>
    .update target filter change multi upsert concern :: calls target concern operations
  | .delete filter justOne :: operations =>
    .delete target filter justOne concern :: calls target concern operations

end Client

namespace Batches

variable {target : Namespace} {concern : Option DriverConcern}
variable {operations : List WriteOperation} {calls : List Call}

theorem nil : Batches target concern [] [] where
  complete := rfl
  writes _ member := absurd member List.not_mem_nil
  maximal := .nil

/-- A call stands in front of others, unless both insert. -/
theorem cons (batches : Batches target concern operations calls) {call : Call}
    (writes : call.Writes target concern)
    (apart : ∀ next ∈ calls.head?, ¬ (call.Inserts ∧ next.Inserts)) :
    Batches target concern (call.operations ++ operations) (call :: calls) where
  complete := by rw [List.flatMap_cons, batches.complete]
  writes := List.forall_mem_cons.mpr ⟨writes, batches.writes⟩
  maximal := List.isChain_cons.mpr ⟨apart, batches.maximal⟩

/-- What stands behind the first call is a batch by itself. -/
theorem tail {call : Call} (batches : Batches target concern operations (call :: calls)) :
    Batches target concern (calls.flatMap Call.operations) calls where
  complete := rfl
  writes := (List.forall_mem_cons.mp batches.writes).2
  maximal := batches.maximal.tail

/-- An insert joins the inserts that it stands in front of. -/
theorem consInsert (batches : Batches target concern operations calls) (document : Document) :
    Batches target concern (.insert document :: operations)
      (Client.consInsert target concern document calls) := by
  have alone : (Call.insertMany target [document] true concern).Writes target concern :=
    .insertMany (List.cons_ne_nil _ _)
  cases calls with
  | nil => exact batches.cons alone (by simp)
  | cons first calls =>
      have writes := batches.writes first List.mem_cons_self
      cases writes with
      | @insertMany documents nonempty =>
          have joint : (Call.insertMany target (document :: documents) true concern).Writes target
            concern := .insertMany (List.cons_ne_nil _ _)
          rw [← batches.complete]
          exact batches.tail.cons joint (List.isChain_cons.mp batches.maximal).1
      | update filter change multi upsert => exact batches.cons alone (by simp [Call.Inserts])
      | delete filter justOne => exact batches.cons alone (by simp [Call.Inserts])

end Batches

namespace Client

variable (target : Namespace) (concern : Option DriverConcern)

/-- The calls for operations carry them out in batches. -/
theorem batches_calls (operations : List WriteOperation) :
    Batches target concern operations (calls target concern operations) := by
  induction operations with
  | nil => exact .nil
  | cons operation operations ih =>
      cases operation with
      | insert document => exact ih.consInsert document
      | update filter change multi upsert =>
          exact ih.cons (.update filter change multi upsert) fun _ _ both => both.1
      | delete filter justOne => exact ih.cons (.delete filter justOne) fun _ _ both => both.1

variable {target concern}

theorem consInsert_of_apart (document : Document) {calls : List Call}
    (apart : ∀ next ∈ calls.head?, ¬ next.Inserts) :
    consInsert target concern document calls =
      .insertMany target [document] true concern :: calls := by
  cases calls with
  | nil => rfl
  | cons first calls =>
      have separate := apart first rfl
      cases first with
      | insertMany => exact absurd trivial separate
      | update => rfl
      | delete => rfl
      | aggregate => rfl
      | runCommand => rfl

/-- Inserts that stand together become one call, if no call that inserts comes next. -/
theorem calls_inserts {documents : List Document} (nonempty : documents ≠ [])
    {operations : List WriteOperation}
    (apart : ∀ next ∈ (calls target concern operations).head?, ¬ next.Inserts) :
    calls target concern (documents.map .insert ++ operations) =
      .insertMany target documents true concern :: calls target concern operations := by
  induction documents with
  | nil => exact absurd rfl nonempty
  | cons document documents ih =>
      rw [List.map_cons, List.cons_append, calls]
      cases documents with
      | nil => exact consInsert_of_apart document apart
      | cons next documents =>
          rw [ih (List.cons_ne_nil _ _)]
          rfl

end Client

/-- There is one way only to carry out operations in batches. -/
theorem Batches.eq_calls {target : Namespace} {concern : Option DriverConcern}
    {operations : List WriteOperation} {calls : List Call}
    (batches : Batches target concern operations calls) :
    calls = Client.calls target concern operations := by
  induction calls generalizing operations with
  | nil =>
      rw [← batches.complete]
      rfl
  | cons first calls ih =>
      have rest := ih batches.tail
      have writes := batches.writes first List.mem_cons_self
      have apart := (List.isChain_cons.mp batches.maximal).1
      rw [← batches.complete, List.flatMap_cons]
      cases writes with
      | insertMany nonempty =>
          rw [rest] at apart
          rw [Call.operations, Client.calls_inserts nonempty, ← rest]
          intro next head inserts
          exact apart next head ⟨trivial, inserts⟩
      | update filter change multi upsert => exact congrArg _ rest
      | delete filter justOne => exact congrArg _ rest

/-! ## The calls of a client -/

theorem WriteResult.add_empty (result : WriteResult) : result + {} = result := by
  obtain ⟨inserted, matched, modified, upserted, deleted⟩ := result
  show (⟨_, _, _, _, _⟩ : WriteResult) = _
  rw [UInt64.add_zero, UInt64.add_zero, UInt64.add_zero, UInt64.add_zero, UInt64.add_zero]

namespace Client

variable (driver : Driver σ) (target : Namespace) (concern : Option DriverConcern)

/-- The call for inserts that are held back, if there are any. -/
def heldBack (pending : List Document) : List Call :=
  if pending.isEmpty then [] else [.insertMany target pending true concern]

/-- Inserts that are held back come first, and by themselves, if what follows does not insert. -/
theorem calls_pending (pending : List Document) {operations : List WriteOperation}
    (apart : ∀ next ∈ (calls target concern operations).head?, ¬ next.Inserts) :
    calls target concern (pending.map .insert ++ operations) =
      heldBack target concern pending ++ calls target concern operations := by
  cases pending with
  | nil => rfl
  | cons document pending => exact calls_inserts (List.cons_ne_nil _ _) apart

/-- What is held back is added to what has been done by one call at most. -/
theorem flush_bind {α : Type} (result : WriteResult) (pending : List Document)
    (next : WriteResult → ExceptT ClientFault (StateM σ) α) :
    (flush driver target concern pending >>= fun inserted => next (result + inserted)) =
      makeCalls driver result (heldBack target concern pending) >>= next := by
  cases pending with
  | nil =>
      show (pure {} >>= fun inserted => next (result + inserted)) = pure result >>= next
      rw [pure_bind, pure_bind, WriteResult.add_empty]
  | cons document pending =>
      simp only [flush, heldBack, List.isEmpty_cons, Bool.false_eq_true, if_false, makeCalls,
        bind_assoc, pure_bind]

/-- An operation that is no insert is a call behind the inserts that are held back. -/
theorem makeCalls_pending (result : WriteResult) (pending : List Document) (call : Call)
    (calls : List Call) :
    (do
      let inserted ← flush driver target concern pending
      let done ← write driver call
      makeCalls driver (result + inserted + done) calls) =
      makeCalls driver result (heldBack target concern pending ++ call :: calls) := by
  rw [makeCalls_append, ← flush_bind]
  rfl

/-- Going through the operations makes the calls for the inserts that are held back and for the
operations that are to come. -/
theorem runOperations_eq (result : WriteResult) (pending : List Document)
    (operations : List WriteOperation) :
    runOperations driver target concern result pending operations =
      makeCalls driver result (calls target concern (pending.map .insert ++ operations)) := by
  induction operations generalizing result pending with
  | nil =>
      rw [calls_pending target concern pending (by simp [calls]), makeCalls_append, ← flush_bind]
      rfl
  | cons operation operations ih =>
      cases operation with
      | insert document =>
          -- The insert is held back too: it stands behind the others in both lists.
          rw [runOperations, ih, List.map_append, List.append_assoc]
          rfl
      | update filter change multi upsert =>
          rw [calls_pending target concern pending (by simp [calls, Call.Inserts]), calls,
            ← makeCalls_pending]
          simp only [runOperations, ih, List.map_nil, List.nil_append]
      | delete filter justOne =>
          rw [calls_pending target concern pending (by simp [calls, Call.Inserts]), calls,
            ← makeCalls_pending]
          simp only [runOperations, ih, List.map_nil, List.nil_append]

/-- A bulk write makes the calls for its operations, under its write concern in the driver's
terms. -/
theorem bulkWrite_eq_makeCalls (bulk : BulkWrite) :
    bulkWrite driver bulk =
      makeCalls driver {}
        (calls bulk.target (bulk.concern.map WriteConcern.toDriver) bulk.operations) :=
  runOperations_eq driver bulk.target (bulk.concern.map WriteConcern.toDriver) {} []
    bulk.operations

end Client

/-- A bulk write makes the calls that carry out its operations in batches, of which there is one
list only, one after another and to the first that fails. Each of them is made under the write
concern in the driver's terms. If all are answered, the result is the sum of what they report, where
the sums fit words; otherwise the fault of the failing call is the outcome, and no call comes behind
it. -/
theorem Client.bulkWrite_batches (driver : Driver σ) (bulk : BulkWrite) (state : σ) :
    let concern := bulk.concern.map WriteConcern.toDriver
    (∃! calls, Batches bulk.target concern bulk.operations calls) ∧
    ∀ calls, Batches bulk.target concern bulk.operations calls →
      let exchanges := driver.exchanges calls state
      let sum := (exchanges.map Exchange.tally).sum
      let made := (bulkWrite driver.logged bulk ([], state)).2.1
      let outcome := (bulkWrite driver bulk state).1
      ((∀ exchange ∈ exchanges, exchange.Succeeds) →
        made = calls ∧ ∃ result, outcome = .ok result ∧ (sum.Fits → result.tally = sum)) ∧
      ∀ (k : Nat) (failing : Exchange) (fault : ClientFault), exchanges[k]? = some failing →
        (∀ exchange ∈ exchanges.take k, exchange.Succeeds) → failing.reply = .error fault →
          made = calls.take (k + 1) ∧ outcome = .error fault := by
  intro concern
  refine ⟨⟨_, batches_calls _ _ _, fun _ batches => batches.eq_calls⟩, ?_⟩
  intro calls batches exchanges sum made outcome
  obtain rfl := batches.eq_calls
  simp only [made, outcome, bulkWrite_eq_makeCalls]
  refine ⟨?_, ?_⟩
  · intro succeed
    obtain ⟨result, total, same⟩ := tally_makeCalls_of_succeeds driver {} succeed
    have start : ({} : WriteResult).tally + sum = sum := Tally.zero_add sum
    refine ⟨log_makeCalls_of_succeeds driver {} succeed [], result, total, ?_⟩
    rw [start] at same
    exact same
  · intro k failing fault here succeed fails
    obtain ⟨inside, found⟩ := List.getElem?_eq_some_iff.mp here
    have parts : exchanges = exchanges.take k ++ failing :: exchanges.drop (k + 1) := by
      rw [← found, ← List.drop_eq_getElem_cons inside, List.take_append_drop]
    obtain ⟨log, failed⟩ := makeCalls_of_fails driver {} parts succeed fails []
    refine ⟨log.trans ?_, failed⟩
    rw [List.nil_append, ← found, List.take_append_getElem, List.map_take,
      driver.map_call_exchanges]

/-- Two inserts go together, and the third has a call of its own behind the update. Where the server
fails at that call, the delete is not made. -/
theorem Client.bulkWrite_batches_around_update :
    let document (n : Int32) : Document := ⟨[("_id", .int32 n)]⟩
    let change : Document := ⟨[("$set", .document ⟨[("seen", .bool true)]⟩)]⟩
    let bulk : BulkWrite :=
      ⟨⟨"app", "users"⟩,
       [.insert (document 1), .insert (document 2), .update (document 7) change true false,
         .insert (document 3), .delete (document 9) true],
       some { acknowledgment := .tagged "east", journal := some false }⟩
    let concern : DriverConcern :=
      { acknowledgment := some (.custom "east"), journal := some false }
    let calls : List Call :=
      [.insertMany bulk.target [document 1, document 2] true (some concern),
       .update bulk.target (document 7) change true false (some concern),
       .insertMany bulk.target [document 3] true (some concern),
       .delete bulk.target (document 9) true (some concern)]
    let updated : ScriptedReply := .updated ⟨4, 2, some (.int32 7)⟩
    let willing : ScriptedServer := { replies := [updated, .deleted 1] }
    let failing : ScriptedServer := { replies := [updated, .failure] }
    Batches bulk.target (some concern) bulk.operations calls ∧
      ((bulkWrite ScriptedServer.driver.logged bulk ([], willing)).2.1 = calls ∧
        ∃ result, (bulkWrite ScriptedServer.driver bulk willing).1 = .ok result ∧
          result.tally = ⟨3, 4, 2, 1, 1⟩) ∧
      (bulkWrite ScriptedServer.driver.logged bulk ([], failing)).2.1 = calls.take 3 ∧
        (bulkWrite ScriptedServer.driver bulk failing).1 = .error ScriptedServer.fault := by
  intro document change bulk concern calls updated willing failing
  have batches : Batches bulk.target (some concern) bulk.operations calls :=
    batches_calls bulk.target (some concern) bulk.operations
  obtain ⟨made, result, outcome, total⟩ :=
    ((bulkWrite_batches ScriptedServer.driver bulk willing).2 calls batches).1 (by decide)
  have fits : ((ScriptedServer.driver.exchanges calls willing).map Exchange.tally).sum.Fits :=
    ⟨by decide, by decide, by decide, by decide, by decide⟩
  refine ⟨batches, ⟨made, result, outcome, total fits⟩, ?_⟩
  exact ((bulkWrite_batches ScriptedServer.driver bulk failing).2 calls batches).2 2 _
    ScriptedServer.fault rfl (by decide) rfl

end DocQuery
