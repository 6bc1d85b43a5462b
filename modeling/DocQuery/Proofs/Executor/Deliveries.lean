import DocQuery.Executor.Recorder
import Mathlib.Data.List.Induction

/-!
# What a recorder delivers

What is laid out for a recorder waits in two queues, one for the rows of commands and one for the
counters of bulk writes, and an order to fail waits beside them. Whatever is done in between, each
queue loses nothing and gives nothing twice: what was laid out is what has been handed out, in the
same order, followed by what still waits. This is kept by each action, and so by every run.

An order to fail is for one request of any kind. Of several orders the last one counts, and the
request that fails takes nothing from the queues.
-/

namespace DocQuery

/-! ## Counters by kind -/

inductive WriteOperation.Kind where
  | insert
  | update
  | delete
deriving DecidableEq

def WriteOperation.kind : WriteOperation → Kind
  | insert _ => .insert
  | update .. => .update
  | delete .. => .delete

def BulkWrite.countOf (bulk : BulkWrite) (kind : WriteOperation.Kind) : UInt64 :=
  .ofNat (bulk.operations.countP (·.kind = kind))

/-- The counters of a server on which each operation finds one document. -/
def BulkWrite.countsByKind (bulk : BulkWrite) : WriteResult where
  inserted := bulk.countOf .insert
  matched := bulk.countOf .update
  modified := bulk.countOf .update
  deleted := bulk.countOf .delete

namespace Recorder

/-- A counter counts the operations that add one to it. -/
theorem counter_derived (counter : WriteResult → UInt64) (counts : WriteOperation → Bool)
    (zero : counter default = 0)
    (step : ∀ result operation, counter (result + derivedCount operation) =
      counter result + if counts operation then 1 else 0) (bulk : BulkWrite) :
    counter (derived bulk) = .ofNat (bulk.operations.countP counts) := by
  have counted (operations : List WriteOperation) (start : WriteResult) :
      counter (operations.foldl (fun result operation => result + derivedCount operation) start) =
        counter start + .ofNat (operations.countP counts) := by
    induction operations generalizing start with
    | nil => exact (UInt64.add_zero _).symm
    | cons operation operations ih =>
        rw [List.foldl_cons, ih, step, List.countP_cons, UInt64.ofNat_add, UInt64.add_assoc,
          UInt64.add_comm (.ofNat _)]
        cases counts operation <;> rfl
  rw [derived, counted, zero, UInt64.zero_add]

/-- The derived counters count the operations by their kinds. -/
theorem derived_eq (bulk : BulkWrite) : derived bulk = bulk.countsByKind := by
  have inserted : (derived bulk).inserted = bulk.countOf .insert := by
    refine counter_derived _ _ rfl (fun result operation => ?_) bulk
    cases operation <;> rfl
  have matched : (derived bulk).matched = bulk.countOf .update := by
    refine counter_derived _ _ rfl (fun result operation => ?_) bulk
    cases operation <;> rfl
  have modified : (derived bulk).modified = bulk.countOf .update := by
    refine counter_derived _ _ rfl (fun result operation => ?_) bulk
    cases operation <;> rfl
  have upserted : (derived bulk).upserted = 0 := by
    refine (counter_derived _ (fun _ => false) rfl (fun result operation => ?_) bulk).trans
      (by simp)
    cases operation <;> rfl
  have deleted : (derived bulk).deleted = bulk.countOf .delete := by
    refine counter_derived _ _ rfl (fun result operation => ?_) bulk
    cases operation <;> rfl
  generalize derived bulk = result at *
  cases result
  rw [BulkWrite.countsByKind, WriteResult.mk.injEq]
  exact ⟨inserted, matched, modified, upserted, deleted⟩

/-! ## Requests -/

theorem rows_reply_bulkWrite (recorder : Recorder) (bulk : BulkWrite) :
    (recorder.reply (.bulkWrite bulk)).2.rows = recorder.rows := by
  rw [reply]
  split <;> rfl

theorem results_reply_command (recorder : Recorder) (database : String) (document : Document) :
    (recorder.reply (.command database document)).2.results = recorder.results := by
  rw [reply]
  split <;> rfl

theorem failure_reply (recorder : Recorder) (request : Request) :
    (recorder.reply request).2.failure = recorder.failure := by
  cases request <;> simp only [reply] <;> split <;> rfl

theorem answer_of_ordered {recorder : Recorder} {message : String}
    (ordered : recorder.failure = some message) (request : Request) :
    answer request recorder =
      (.error (.executor message), { recorder.keep request with failure := none }) := by
  rw [answer, ordered]

theorem answer_of_unordered {recorder : Recorder} (unordered : recorder.failure = none)
    (request : Request) :
    answer request recorder =
      (.ok ((recorder.keep request).reply request).1,
        ((recorder.keep request).reply request).2) := by
  rw [answer, unordered]

/-- A request fails exactly if there is an order to fail. -/
theorem answer_eq_error_iff {recorder : Recorder} {request : Request} {fault : Fault} :
    (answer request recorder).1 = .error fault ↔
      ∃ message, recorder.failure = some message ∧ fault = .executor message := by
  cases ordered : recorder.failure with
  | none => simp [answer_of_unordered ordered]
  | some message => simp [answer_of_ordered ordered, eq_comm]

/-- A request that does not fail is answered from what is laid out. -/
theorem eq_reply_of_answer {recorder : Recorder} {request : Request} {given : request.Reply}
    (answered : (answer request recorder).1 = .ok given) :
    given = ((recorder.keep request).reply request).1 := by
  cases ordered : recorder.failure with
  | none =>
      rw [answer_of_unordered ordered] at answered
      exact (Except.ok.inj answered).symm
  | some message =>
      rw [answer_of_ordered ordered] at answered
      contradiction

/-- No order to fail outlives a request. -/
theorem failure_answer (request : Request) (recorder : Recorder) :
    (answer request recorder).2.failure = none := by
  cases ordered : recorder.failure with
  | none =>
      rw [answer_of_unordered ordered, failure_reply]
      exact ordered
  | some message => rw [answer_of_ordered ordered]

/-! ## Runs -/

inductive Action where
  | layOutRows (rows : List Document)
  | layOutResult (result : WriteResult)
  | failOnce (message : String)
  | send (request : Request)

namespace Action

def rows? : Action → Option (List Document)
  | layOutRows rows => some rows
  | _ => none

def result? : Action → Option WriteResult
  | layOutResult result => some result
  | _ => none

def order? : Action → Option String
  | failOnce message => some message
  | _ => none

def request? : Action → Option Request
  | send request => some request
  | _ => none

end Action

def perform (recorder : Recorder) : Action → Recorder
  | .layOutRows rows => recorder.layOutRows rows
  | .layOutResult result => recorder.layOutResult result
  | .failOnce message => recorder.failOnce message
  | .send request => (answer request recorder).2

def run (recorder : Recorder) (actions : List Action) : Recorder :=
  actions.foldl perform recorder

/-- An action, and the recorder as it was found. -/
structure Moment where
  found : Recorder
  action : Action

def moments : Recorder → List Action → List Moment
  | _, [] => []
  | recorder, action :: actions => ⟨recorder, action⟩ :: moments (recorder.perform action) actions

theorem run_concat (recorder : Recorder) (actions : List Action) (action : Action) :
    recorder.run (actions ++ [action]) = (recorder.run actions).perform action :=
  List.foldl_append

theorem moments_concat (recorder : Recorder) (actions : List Action) (action : Action) :
    recorder.moments (actions ++ [action]) =
      recorder.moments actions ++ [⟨recorder.run actions, action⟩] := by
  induction actions generalizing recorder with
  | nil => rfl
  | cons first actions ih =>
      rw [List.cons_append, moments, ih]
      rfl

namespace Moment

def Fails (moment : Moment) : Prop :=
  ∃ request fault, moment.action = .send request ∧ (answer request moment.found).1 = .error fault

/-- The rows that a command is answered with, if it finds any laid out. -/
def handedRows? (moment : Moment) : Option (List Document) :=
  match moment.action with
  | .send (.command database document) =>
    match (answer (.command database document) moment.found).1 with
    | .ok rows => if moment.found.rows.isEmpty then none else some rows
    | .error _ => none
  | _ => none

/-- The counters that a bulk write is answered with, if it finds any laid out. -/
def handedResult? (moment : Moment) : Option WriteResult :=
  match moment.action with
  | .send (.bulkWrite bulk) =>
    match (answer (.bulkWrite bulk) moment.found).1 with
    | .ok result => if moment.found.results.isEmpty then none else some result
    | .error _ => none
  | _ => none

end Moment

/-! ## Queues -/

/-- What an action adds to the end of a queue and what it takes from the front of it account for the
queue, and so they do in a run. -/
theorem run_accounts {α : Type} (queue : Recorder → List α) (added? : Action → Option α)
    (taken? : Moment → Option α)
    (step : ∀ recorder action, queue recorder ++ (added? action).toList =
      (taken? ⟨recorder, action⟩).toList ++ queue (recorder.perform action))
    (recorder : Recorder) (actions : List Action) :
    queue recorder ++ actions.filterMap added? =
      (recorder.moments actions).filterMap taken? ++ queue (recorder.run actions) := by
  have cons {β γ : Type} (f : β → Option γ) (x : β) (xs : List β) :
      (x :: xs).filterMap f = (f x).toList ++ xs.filterMap f := by
    rw [List.filterMap_cons]
    cases f x <;> rfl
  induction actions generalizing recorder with
  | nil => exact List.append_nil _
  | cons action actions ih =>
      rw [cons, moments, cons, ← List.append_assoc, step, List.append_assoc, ih,
        List.append_assoc]
      rfl

theorem rows_perform (recorder : Recorder) (action : Action) :
    recorder.rows ++ action.rows?.toList =
      (Moment.handedRows? ⟨recorder, action⟩).toList ++ (recorder.perform action).rows := by
  cases action with
  | layOutRows rows => rfl
  | layOutResult result => exact List.append_nil _
  | failOnce message => exact List.append_nil _
  | send request =>
      have nothing : recorder.rows ++ (Action.send request).rows?.toList = recorder.rows :=
        List.append_nil _
      rw [nothing]
      cases ordered : recorder.failure with
      | some message =>
          cases request <;> simp [perform, Moment.handedRows?, answer_of_ordered ordered, keep]
      | none =>
          rw [perform, answer_of_unordered ordered]
          cases request with
          | version => rfl
          | bulkWrite bulk => exact (rows_reply_bulkWrite (recorder.keep _) bulk).symm
          | command database document =>
              cases waiting : recorder.rows <;>
                simp [Moment.handedRows?, answer_of_unordered ordered, keep, reply, waiting]

theorem results_perform (recorder : Recorder) (action : Action) :
    recorder.results ++ action.result?.toList =
      (Moment.handedResult? ⟨recorder, action⟩).toList ++ (recorder.perform action).results := by
  cases action with
  | layOutRows rows => exact List.append_nil _
  | layOutResult result => rfl
  | failOnce message => exact List.append_nil _
  | send request =>
      have nothing : recorder.results ++ (Action.send request).result?.toList = recorder.results :=
        List.append_nil _
      rw [nothing]
      cases ordered : recorder.failure with
      | some message =>
          cases request <;> simp [perform, Moment.handedResult?, answer_of_ordered ordered, keep]
      | none =>
          rw [perform, answer_of_unordered ordered]
          cases request with
          | version => rfl
          | bulkWrite bulk =>
              cases waiting : recorder.results <;>
                simp [Moment.handedResult?, answer_of_unordered ordered, keep, reply, waiting]
          | command database document =>
              exact (results_reply_command (recorder.keep _) database document).symm

theorem received_perform (recorder : Recorder) (action : Action) :
    (recorder.perform action).received = recorder.received ++ action.request?.toList := by
  cases action with
  | send request => exact received_answer request recorder
  | _ => exact (List.append_nil _).symm

/-! ## Orders to fail -/

/-- The last order to fail, since which no request has failed. -/
def Armed (message : String) (moments : List Moment) : Prop :=
  ∃ before found since, moments = before ++ ⟨found, .failOnce message⟩ :: since ∧
    ∀ moment ∈ since, ¬ moment.Fails ∧ moment.action.order? = none

theorem not_armed_nil (message : String) : ¬ Armed message [] := by
  rintro ⟨before, found, since, split, -⟩
  exact List.append_ne_nil_of_right_ne_nil before (List.cons_ne_nil _ _) split.symm

theorem armed_concat_iff {message : String} {moments : List Moment} {moment : Moment} :
    Armed message (moments ++ [moment]) ↔
      moment.action = .failOnce message ∨
        (¬ moment.Fails ∧ moment.action.order? = none) ∧ Armed message moments := by
  constructor
  · rintro ⟨before, found, since, split, quiet⟩
    obtain rfl | ⟨later, last, rfl⟩ := List.eq_nil_or_concat since
    · obtain ⟨-, same⟩ := List.append_inj' split rfl
      obtain rfl := (List.cons.inj same).1
      exact .inl rfl
    · rw [List.concat_eq_append] at split quiet
      rw [← List.cons_append, ← List.append_assoc] at split
      obtain ⟨rfl, same⟩ := List.append_inj' split rfl
      obtain rfl := (List.cons.inj same).1
      rw [List.forall_mem_append, List.forall_mem_singleton] at quiet
      exact .inr ⟨quiet.2, before, found, later, rfl, quiet.1⟩
  · rintro (ordered | ⟨calm, before, found, since, rfl, quiet⟩)
    · obtain ⟨found, action⟩ := moment
      obtain rfl : action = .failOnce message := ordered
      exact ⟨moments, found, [], rfl, by simp⟩
    · refine ⟨before, found, since ++ [moment], by simp, ?_⟩
      rw [List.forall_mem_append, List.forall_mem_singleton]
      exact ⟨quiet, calm⟩

theorem fails_send_iff {recorder : Recorder} {request : Request} :
    Moment.Fails ⟨recorder, .send request⟩ ↔ recorder.failure.isSome = true := by
  simp only [Moment.Fails, answer_eq_error_iff]
  cases recorder.failure with
  | none => simp
  | some message => simp

/-- What a recorder keeps of the orders to fail is the last one, if no request has failed since. -/
theorem failure_run_iff {start : Recorder} (unordered : start.failure = none)
    (actions : List Action) {message : String} :
    (start.run actions).failure = some message ↔ Armed message (start.moments actions) := by
  induction actions using List.reverseRecOn with
  | nil => exact iff_of_false (by simp [run, unordered]) (not_armed_nil message)
  | append_singleton actions action ih =>
      rw [run_concat, moments_concat, armed_concat_iff, ← ih]
      have calm (quiet : action.request? = none) : ¬ Moment.Fails ⟨start.run actions, action⟩ := by
        rintro ⟨request, fault, rfl, -⟩
        contradiction
      cases action with
      | layOutRows rows => simp [perform, layOutRows, calm rfl, Action.order?]
      | layOutResult result => simp [perform, layOutResult, calm rfl, Action.order?]
      | failOnce later => simp [perform, failOnce, calm rfl, Action.order?]
      | send request =>
          simp only [perform, failure_answer, fails_send_iff]
          cases (start.run actions).failure <;> simp

/-- Every request of a run is kept once, in order. The rows that were laid out are those that
commands have been answered with, in order, followed by those that wait, and so are the counters.
The next request fails exactly if there is an order to fail, since which none has failed, and with
the words of the last order; then it takes nothing. A request that is answered and finds nothing
laid out gets no rows, or the counters of its operations. A run may end at any moment, so all this
holds at every moment. -/
theorem delivers_once (version : ServerVersion) (actions : List Action) :
    let start : Recorder := { version }
    let recorder := start.run actions
    let moments := start.moments actions
    recorder.received = actions.filterMap Action.request? ∧
    actions.filterMap Action.rows? =
      moments.filterMap Moment.handedRows? ++ recorder.rows ∧
    actions.filterMap Action.result? =
      moments.filterMap Moment.handedResult? ++ recorder.results ∧
    (∀ request fault, (answer request recorder).1 = .error fault ↔
      ∃ message, Armed message moments ∧ fault = .executor message) ∧
    (∀ request fault, (answer request recorder).1 = .error fault →
      (answer request recorder).2.rows = recorder.rows ∧
        (answer request recorder).2.results = recorder.results) ∧
    (∀ database document rows, (answer (.command database document) recorder).1 = .ok rows →
      recorder.rows = [] → rows = []) ∧
    (∀ bulk result, (answer (.bulkWrite bulk) recorder).1 = .ok result →
      recorder.results = [] → result = bulk.countsByKind) := by
  intro start recorder moments
  have received := run_accounts received Action.request? (fun _ => none)
    (fun recorder action => (recorder.received_perform action).symm) start actions
  have orders (message : String) : recorder.failure = some message ↔ Armed message moments :=
    failure_run_iff rfl actions
  refine ⟨?_, run_accounts rows _ _ rows_perform start actions,
    run_accounts results _ _ results_perform start actions, ?_, ?_, ?_, ?_⟩
  · have nothing : moments.filterMap (fun _ => (none : Option Request)) = [] :=
      List.filterMap_eq_nil_iff.mpr fun _ _ => rfl
    rw [nothing] at received
    exact received.symm
  · intro request fault
    simp only [answer_eq_error_iff, orders]
  · intro request fault failed
    obtain ⟨message, ordered, -⟩ := answer_eq_error_iff.mp failed
    rw [answer_of_ordered ordered]
    exact ⟨rfl, rfl⟩
  · intro database document rows answered nothing
    rw [eq_reply_of_answer answered]
    simp only [reply, keep, nothing]
  · intro bulk result answered nothing
    rw [eq_reply_of_answer answered, ← derived_eq]
    simp only [reply, keep, nothing]

/-- The second of two orders to fail counts. The command that fails takes no rows: the next one gets
the rows that were laid out first, and those laid out behind them still wait. The counters were
taken by the first bulk write, so those of the second are derived. -/
theorem delivers_once_around_failure :
    let row (n : Int32) : Document := ⟨[("_id", .int32 n)]⟩
    let bulk : BulkWrite :=
      ⟨⟨"app", "users"⟩, [.insert (row 1), .delete ∅ false, .insert (row 2)], none⟩
    let command : Request := .command "app" ⟨[("aggregate", .string "users")]⟩
    let before : List Action :=
      [.layOutRows [row 7], .layOutResult { deleted := 3 }, .send (.bulkWrite bulk),
        .layOutRows [row 8], .failOnce "first", .failOnce "last"]
    let actions := before ++ [.send command, .send command]
    let start : Recorder := { version := default }
    (Armed "last" (start.moments before) ∧
      (answer command (start.run before)).1 = .error (.executor "last") ∧
      (answer command (start.run before)).2.rows = [[row 7], [row 8]]) ∧
    (start.run actions).received = [.bulkWrite bulk, command, command] ∧
    (start.moments actions).filterMap Moment.handedRows? ++ (start.run actions).rows =
      [[row 7], [row 8]] ∧
    (start.run actions).rows = [[row 8]] ∧
    (start.moments actions).filterMap Moment.handedResult? = [{ deleted := 3 }] ∧
    (answer (.bulkWrite bulk) (start.run actions)).1 = .ok { inserted := 2, deleted := 1 } := by
  intro row bulk command before actions start
  have armed : Armed "last" (start.moments before) :=
    ⟨start.moments (before.take 5), start.run (before.take 5), [], rfl, by simp⟩
  obtain ⟨-, -, -, fails, keeps, -, -⟩ := delivers_once default before
  have failed := (fails command _).mpr ⟨"last", armed, rfl⟩
  obtain ⟨received, rows, -, -, -, -, derives⟩ := delivers_once default actions
  have answered : (answer (.bulkWrite bulk) (start.run actions)).1 = .ok (derived bulk) := rfl
  exact ⟨⟨armed, failed, (keeps command _ failed).1⟩, received, rows.symm, rfl, rfl,
    answered.trans (congrArg Except.ok (derives bulk _ answered rfl))⟩

end Recorder

end DocQuery
