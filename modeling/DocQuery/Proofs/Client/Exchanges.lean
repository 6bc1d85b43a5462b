import DocQuery.Client.Executor

/-!
# Calls and what they are answered

A client is seen from its driver: by the calls it makes, and in which order. A logged driver writes
each call down before it lets the driver answer. What the driver would say to a list of calls, made
one after another in spite of all failures, are the exchanges of the list; a client makes calls as
far as the first exchange that fails.

The counters of replies are words, and a total that fits words is the sum of the counters in
unbounded numbers.
-/

namespace DocQuery

variable {σ : Type}

/-- Writes down each call in front of a driver, whatever it answers. -/
def Driver.logged (driver : Driver σ) : Driver (List Call × σ) where
  answer call state :=
    let (reply, inner) := driver.answer call state.2
    (reply, state.1 ++ [call], inner)

@[simp] theorem Driver.answer_logged (driver : Driver σ) (call : Call) (log : List Call)
    (state : σ) :
    driver.logged.answer call (log, state) =
      ((driver.answer call state).1, log ++ [call], (driver.answer call state).2) := rfl

/-- A call, and what the driver has said to it. -/
structure Exchange where
  call : Call
  reply : Except ClientFault call.Reply

/-- The exchanges of calls that are made one after another, whatever each of them is answered. -/
def Driver.exchanges (driver : Driver σ) : List Call → σ → List Exchange
  | [], _ => []
  | call :: calls, state =>
    ⟨call, (driver.answer call state).1⟩ :: driver.exchanges calls (driver.answer call state).2

@[simp] theorem Driver.map_call_exchanges (driver : Driver σ) (calls : List Call) (state : σ) :
    (driver.exchanges calls state).map Exchange.call = calls := by
  induction calls generalizing state with
  | nil => rfl
  | cons call calls ih => rw [exchanges, List.map_cons, ih]

/-! ## Totals -/

/-- Numbers of documents without bound. -/
@[ext] structure Tally where
  inserted : Nat := 0
  matched : Nat := 0
  modified : Nat := 0
  upserted : Nat := 0
  deleted : Nat := 0

namespace Tally

instance : Zero Tally := ⟨{}⟩

instance : Add Tally where
  add a b :=
    { inserted := a.inserted + b.inserted
      matched := a.matched + b.matched
      modified := a.modified + b.modified
      upserted := a.upserted + b.upserted
      deleted := a.deleted + b.deleted }

structure Fits (tally : Tally) : Prop where
  inserted : tally.inserted < UInt64.size
  matched : tally.matched < UInt64.size
  modified : tally.modified < UInt64.size
  upserted : tally.upserted < UInt64.size
  deleted : tally.deleted < UInt64.size

protected theorem zero_add (a : Tally) : 0 + a = a := by
  ext <;> exact Nat.zero_add _

protected theorem add_assoc (a b c : Tally) : a + b + c = a + (b + c) := by
  ext <;> exact Nat.add_assoc _ _ _

theorem Fits.of_add {a b : Tally} (fits : (a + b).Fits) : a.Fits where
  inserted := Nat.lt_of_le_of_lt (Nat.le_add_right _ _) fits.inserted
  matched := Nat.lt_of_le_of_lt (Nat.le_add_right _ _) fits.matched
  modified := Nat.lt_of_le_of_lt (Nat.le_add_right _ _) fits.modified
  upserted := Nat.lt_of_le_of_lt (Nat.le_add_right _ _) fits.upserted
  deleted := Nat.lt_of_le_of_lt (Nat.le_add_right _ _) fits.deleted

end Tally

def WriteResult.tally (result : WriteResult) : Tally where
  inserted := result.inserted.toNat
  matched := result.matched.toNat
  modified := result.modified.toNat
  upserted := result.upserted.toNat
  deleted := result.deleted.toNat

/-- Counters are added as numbers, as long as the sums fit words. -/
theorem WriteResult.tally_add {a b : WriteResult} (fits : (a.tally + b.tally).Fits) :
    (a + b).tally = a.tally + b.tally := by
  have word (m n : UInt64) (bounded : m.toNat + n.toNat < UInt64.size) :
      (m + n).toNat = m.toNat + n.toNat := by
    rw [UInt64.toNat_add]
    exact Nat.mod_eq_of_lt bounded
  ext
  · exact word _ _ fits.inserted
  · exact word _ _ fits.matched
  · exact word _ _ fits.modified
  · exact word _ _ fits.upserted
  · exact word _ _ fits.deleted

namespace Exchange

def Succeeds (exchange : Exchange) : Prop :=
  ∃ reply, exchange.reply = .ok reply

instance : DecidablePred Succeeds := fun exchange =>
  match answered : exchange.reply with
  | .ok reply => isTrue ⟨reply, answered⟩
  | .error _ => isFalse fun ⟨_, same⟩ => nomatch answered.symm.trans same

/-- What an exchange reports: how many documents were inserted, matched, modified and deleted. An
update that has inserted a document reports one more. -/
def tally : Exchange → Tally
  | ⟨.insertMany .., .ok (count : UInt64)⟩ => { inserted := count.toNat }
  | ⟨.update .., .ok (reply : UpdateReply)⟩ =>
    { matched := reply.matched.toNat
      modified := reply.modified.toNat
      upserted := if reply.upsertedId.isSome then 1 else 0 }
  | ⟨.delete .., .ok (count : UInt64)⟩ => { deleted := count.toNat }
  | _ => 0

theorem tally_contribution (call : Call) (reply : call.Reply) :
    (Client.contribution call reply).tally = tally ⟨call, .ok reply⟩ := by
  cases call with
  | insertMany => rfl
  | update target filter change multi upsert concern =>
      obtain ⟨matched, modified, upsertedId⟩ := reply
      cases upsertedId <;> rfl
  | delete => rfl
  | aggregate => rfl
  | runCommand => rfl

end Exchange

/-! ## Making calls -/

namespace Client

variable (driver : Driver σ)

/-- Makes calls one after another, up to the first that fails, and adds up what they do. -/
def makeCalls (result : WriteResult) : List Call → ExceptT ClientFault (StateM σ) WriteResult
  | [] => return result
  | call :: calls => do
    let done ← write driver call
    makeCalls (result + done) calls

theorem makeCalls_append (result : WriteResult) (calls others : List Call) :
    makeCalls driver result (calls ++ others) =
      makeCalls driver result calls >>= fun result => makeCalls driver result others := by
  induction calls generalizing result with
  | nil => rw [List.nil_append, makeCalls, pure_bind]
  | cons call calls ih => simp only [List.cons_append, makeCalls, bind_assoc, ih]

theorem makeCalls_cons (result : WriteResult) (call : Call) (calls : List Call) (state : σ) :
    makeCalls driver result (call :: calls) state =
      match (driver.answer call state).1 with
      | .ok reply =>
        makeCalls driver (result + contribution call reply) calls (driver.answer call state).2
      | .error fault => (.error fault, (driver.answer call state).2) := by
  simp only [makeCalls, write, bind, ExceptT.bind, ExceptT.mk, StateT.bind]
  generalize driver.answer call state = answer
  obtain ⟨said, after⟩ := answer
  cases said <;> rfl

theorem makeCalls_cons_ok (result : WriteResult) {call : Call} (calls : List Call) {state : σ}
    {reply : call.Reply} (answered : (driver.answer call state).1 = .ok reply) :
    makeCalls driver result (call :: calls) state =
      makeCalls driver (result + contribution call reply) calls (driver.answer call state).2 := by
  rw [makeCalls_cons, answered]

theorem makeCalls_cons_error (result : WriteResult) {call : Call} (calls : List Call) {state : σ}
    {fault : ClientFault} (failed : (driver.answer call state).1 = .error fault) :
    makeCalls driver result (call :: calls) state =
      (.error fault, (driver.answer call state).2) := by
  rw [makeCalls_cons, failed]

/-- Calls that are all answered are all made, in order. -/
theorem log_makeCalls_of_succeeds (result : WriteResult) {calls : List Call} {state : σ}
    (succeed : ∀ exchange ∈ driver.exchanges calls state, exchange.Succeeds) (log : List Call) :
    (makeCalls driver.logged result calls (log, state)).2.1 = log ++ calls := by
  induction calls generalizing result state log with
  | nil => exact (List.append_nil log).symm
  | cons call calls ih =>
      obtain ⟨reply, answered⟩ := succeed _ List.mem_cons_self
      have rest := fun exchange member => succeed exchange (List.mem_cons_of_mem _ member)
      have logged : (driver.logged.answer call (log, state)).1 = .ok reply := answered
      rw [makeCalls_cons_ok _ _ _ logged, driver.answer_logged, ih _ rest, List.append_assoc]
      rfl

/-- The result of calls that are all answered is the sum of what they report. -/
theorem tally_makeCalls_of_succeeds (result : WriteResult) {calls : List Call} {state : σ}
    (succeed : ∀ exchange ∈ driver.exchanges calls state, exchange.Succeeds) :
    ∃ total, (makeCalls driver result calls state).1 = .ok total ∧
      ((result.tally + ((driver.exchanges calls state).map Exchange.tally).sum).Fits →
        total.tally =
          result.tally + ((driver.exchanges calls state).map Exchange.tally).sum) := by
  induction calls generalizing result state with
  | nil => exact ⟨result, rfl, fun _ => rfl⟩
  | cons call calls ih =>
      obtain ⟨reply, answered⟩ := succeed _ List.mem_cons_self
      have rest := fun exchange member => succeed exchange (List.mem_cons_of_mem _ member)
      obtain ⟨total, outcome, sum⟩ := ih (result + contribution call reply) rest
      refine ⟨total, ?_, ?_⟩
      · rw [makeCalls_cons_ok _ _ _ answered]
        exact outcome
      · have first : Exchange.tally ⟨call, (driver.answer call state).1⟩ =
            (contribution call reply).tally := by
          rw [Exchange.tally_contribution]
          exact congrArg (Exchange.tally ⟨call, ·⟩) answered
        rw [Driver.exchanges, List.map_cons, List.sum_cons, first, ← Tally.add_assoc]
        intro fits
        have added := WriteResult.tally_add fits.of_add
        rw [← added] at fits ⊢
        exact sum fits

/-- Behind a call that fails no other is made, and its fault is the outcome. -/
theorem makeCalls_of_fails (result : WriteResult) {calls : List Call} {state : σ}
    {before later : List Exchange} {failing : Exchange} {fault : ClientFault}
    (exchanges : driver.exchanges calls state = before ++ failing :: later)
    (succeed : ∀ exchange ∈ before, exchange.Succeeds) (fails : failing.reply = .error fault)
    (log : List Call) :
    (makeCalls driver.logged result calls (log, state)).2.1 =
        log ++ (before ++ [failing]).map Exchange.call ∧
      (makeCalls driver result calls state).1 = .error fault := by
  induction calls generalizing result state before log with
  | nil => exact absurd exchanges (by simp [Driver.exchanges])
  | cons call calls ih =>
      cases before with
      | nil =>
          obtain ⟨rfl, -⟩ := List.cons.inj exchanges
          have logged : (driver.logged.answer call (log, state)).1 = .error fault := fails
          rw [makeCalls_cons_error _ _ _ logged, makeCalls_cons_error _ _ _ fails]
          exact ⟨rfl, rfl⟩
      | cons first before =>
          obtain ⟨rfl, rest⟩ := List.cons.inj exchanges
          obtain ⟨reply, answered⟩ := succeed _ List.mem_cons_self
          have logged : (driver.logged.answer call (log, state)).1 = .ok reply := answered
          rw [makeCalls_cons_ok _ _ _ logged, makeCalls_cons_ok _ _ _ answered,
            driver.answer_logged]
          have later := ih (result + contribution call reply) rest
            (fun exchange member => succeed exchange (List.mem_cons_of_mem _ member))
            (log ++ [call])
          rw [List.append_assoc] at later
          exact later

end Client

end DocQuery
