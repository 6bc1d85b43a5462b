import DocQuery.Proofs.Session.Intents

/-!
# What comes to be executed

An operation with a verdict is answered by it, and nothing happens: the executor receives no request
of any kind, and the session remembers what it remembered before. Every other operation sends one
bulk write or one command. A count asks for the version in front of it, where the version is not
known, and gives up if there is none to be had. The faults of such operations are the executor's.
-/

namespace DocQuery

variable {σ τ : Type}

namespace Connection

/-- What an operation on a collection sends if it is executed, and what becomes of a count that
learns no version. -/
inductive Executes (connection : Connection σ τ) (target : Namespace) (shared : Shared σ τ) :
    (operation : Operation) → Except Fault operation.Answer → List Request → Prop where
  | write {operation : Operation} {answer : Except Fault operation.Answer} {bulk : BulkWrite}
      (writes : operation.intent ≠ .read) (there : bulk.target = target) :
      Executes connection target shared operation answer [.bulkWrite bulk]
  | read {operation : Operation} {answer : Except Fault operation.Answer} {command : Document}
      (reads : operation.intent = .read) (plain : operation ≠ .count) :
      Executes connection target shared operation answer [.command target.database command]
  | count {answer : Except Fault UInt64} {version : ServerVersion} {command : Document}
      (known : (connection.serverVersion shared).1 = .ok version) :
      Executes connection target shared .count answer
        (connection.versionRequests shared ++ [.command target.database command])
  | unversioned {fault : Fault} (unknown : (connection.serverVersion shared).1 = .error fault) :
      Executes connection target shared .count (.error fault) [.version]

variable (connection : Connection σ τ) (session : Session) {operation : Operation}

/-- For a finished plan nothing happens, but that the options are dropped. -/
theorem perform_of_done {shared : Shared σ τ} {answer : Except Fault operation.Answer}
    (planned : (session.plan connection.config connection.primaryKey operation shared.source).1 =
      .done answer) :
    (connection.perform session operation shared).1 = (answer, session.edit .reset) ∧
      connection.operationRequests session operation shared = [] := by
  have done : (onSource (session.plan connection.config connection.primaryKey operation) shared).1 =
    .done answer := planned
  rw [perform_eq, operationRequests]
  simp only [done, carryOut_done, planRequests, and_self]

/-! ## Versions -/

/-- A version that is not to be had has been asked for. -/
theorem serverVersion_eq_error {shared : Shared σ τ} {fault : Fault}
    (unknown : (connection.serverVersion shared).1 = .error fault) :
    connection.versionRequests shared = [.version] ∧
      (connection.executor.answer .version shared.executor).1 = .error fault := by
  rw [serverVersion] at unknown
  rw [versionRequests]
  cases known : connection.config.serverVersion <|> shared.version with
  | some version =>
      rw [known] at unknown
      contradiction
  | none =>
      simp only [known, send] at unknown
      refine ⟨rfl, ?_⟩
      generalize connection.executor.answer .version shared.executor = answered at unknown ⊢
      obtain ⟨reply, after⟩ := answered
      cases reply with
      | error fault => exact unknown
      | ok version => contradiction

theorem readCommand_of_unversioned (target : Namespace) {options : Options}
    (counted : options.countLabel.isSome = true) {shared after : Shared σ τ} {fault : Fault}
    (unknown : connection.serverVersion shared = (.error fault, after)) :
    connection.readCommand target options shared = (.error fault, after) := by
  simp only [readCommand, counted, if_true, bind, StateT.bind, unknown]
  rfl

/-! ## Operations -/

private theorem eq_error_of_map {α β : Type} {f : α → β} {result : Except Fault α} {fault : Fault}
    (failed : result.map f = .error fault) : result = .error fault := by
  cases result with
  | error _ =>
      cases failed
      rfl
  | ok _ => contradiction

/-- An operation that writes is planned as the write that it is about, and planning it asks the
executor nothing. -/
theorem onSource_plan_of_writes (accepted : session.verdict? operation = none)
    (writes : operation.intent ≠ .read) (shared : Shared σ τ) :
    ∃ write ids answer between,
      onSource (session.plan connection.config connection.primaryKey operation) shared =
        (.write write ids answer, between) ∧
      between.executor = shared.executor ∧
      session.write? connection.primaryKey shared.source operation.intent = some write := by
  have does := session.does_plan connection.config connection.primaryKey shared.source accepted
  generalize planned : session.plan connection.config connection.primaryKey operation
    shared.source = step at does
  obtain ⟨plan, after⟩ := step
  have same : onSource (session.plan connection.config connection.primaryKey operation) shared =
      (plan, { shared with source := after }) := by
    simp only [onSource, planned]
  cases does with
  | read reads => exact absurd reads writes
  | write meant => exact ⟨_, _, _, _, same, rfl, meant⟩

/-- An operation that writes sends the write that it is about. -/
theorem operationRequests_of_write? {shared : Shared σ τ} {write : Write}
    (accepted : session.verdict? operation = none)
    (meant : session.write? connection.primaryKey shared.source operation.intent = some write) :
    connection.operationRequests session operation shared =
      [.bulkWrite (write.bulk session.target connection.config.writeConcern)] := by
  have writes : operation.intent ≠ .read := by
    intro reads
    rw [reads] at meant
    contradiction
  obtain ⟨planned, ids, answer, between, same, -, planned_meant⟩ :=
    connection.onSource_plan_of_writes session accepted writes shared
  obtain rfl := Option.some.inj (meant.symm.trans planned_meant)
  rw [operationRequests, same]
  rfl

/-- A write is one question to the executor, and the answer is made of its reply. -/
theorem carryOut_write_eq {α : Type} (write : Write) (ids : Option InsertedIds)
    (answer : WriteResult → α) (shared : Shared σ τ) :
    let carried := connection.carryOut session (.write write ids answer) shared
    let replied := connection.executor.answer
      (.bulkWrite (write.bulk session.target connection.config.writeConcern)) shared.executor
    carried.1.1 = replied.1.map answer ∧ carried.2.executor = replied.2 := by
  simp only [carryOut_write, send]
  generalize connection.executor.answer _ shared.executor = replied
  obtain ⟨reply, after⟩ := replied
  cases reply <;> exact ⟨rfl, rfl⟩

/-- What has happened in an operation that comes to be executed. -/
structure Executed (shared : Shared σ τ) (operation : Operation) : Prop where
  sends : connection.Executes session.target shared operation
    (connection.perform session operation shared).1.1
    (connection.operationRequests session operation shared)
  /-- A fault is one of the executor's replies to what was sent. -/
  faults : ∀ fault, (connection.perform session operation shared).1.1 = .error fault →
    ∃ request ∈ connection.operationRequests session operation shared, ∃ state,
      (connection.executor.answer request state).1 = .error fault

theorem executed_write {shared : Shared σ τ} (accepted : session.verdict? operation = none)
    (writes : operation.intent ≠ .read) : connection.Executed session shared operation := by
  obtain ⟨write, ids, answer, between, planned, -, -⟩ :=
    connection.onSource_plan_of_writes session accepted writes shared
  have sent : connection.operationRequests session operation shared =
      [.bulkWrite (write.bulk session.target connection.config.writeConcern)] := by
    rw [operationRequests, planned]
    rfl
  have carried := connection.carryOut_write_eq session write ids answer between
  refine ⟨?_, ?_⟩
  · rw [sent]
    exact .write writes rfl
  · intro fault failed
    rw [perform_eq, planned] at failed
    rw [sent]
    refine ⟨_, List.mem_singleton_self _, between.executor, eq_error_of_map (f := answer) ?_⟩
    rw [← carried.1]
    exact failed

theorem executed_of_compiled {operation : Operation} {edits : List Options.Edit}
    {answer : List Document → operation.Answer}
    (planned : session.plan connection.config connection.primaryKey operation =
      session.planRead edits answer)
    (resolved : session.target.fault? = none) {shared between : Shared σ τ} {command : Document}
    (compiled : connection.readCommand session.target (session.options.editAll edits) shared =
      (.ok command, between))
    (executes : connection.Executes session.target shared operation
      (connection.perform session operation shared).1.1
      (connection.readCommandRequests (session.options.editAll edits) shared ++
        [.command session.target.database command])) :
    connection.Executed session shared operation := by
  have sent := connection.operationRequests_read planned resolved compiled
  refine ⟨sent ▸ executes, ?_⟩
  intro fault failed
  rw [connection.answer_perform_read session planned resolved compiled] at failed
  rw [sent]
  exact ⟨_, List.mem_append_right _ (List.mem_singleton_self _), between.executor,
    eq_error_of_map failed⟩

theorem executed_read {shared : Shared σ τ} (uncounted : session.options.countLabel = none)
    (accepted : session.verdict? operation = none) (reads : operation.intent = .read)
    (plain : operation ≠ .count) : connection.Executed session shared operation := by
  have resolved := session.resolved_of_verdict?_eq_none accepted
  obtain ⟨answer, planned⟩ := session.plan_eq_planRead connection.config connection.primaryKey reads
    (session.unsettled_of_verdict?_eq_none accepted).1
  have labelled : (session.options.editAll (session.edits connection.config connection.primaryKey
      operation)).countLabel = none :=
    session.countLabel_readOptions connection.config connection.primaryKey uncounted plain
  refine connection.executed_of_compiled session planned resolved
    (connection.readCommand_of_uncounted session.target labelled shared) ?_
  rw [readCommandRequests, labelled]
  exact .read reads plain

/-- A count that learns no version is given up. -/
theorem perform_count_of_unversioned (resolved : session.target.fault? = none)
    {shared after : Shared σ τ} {fault : Fault}
    (unknown : connection.serverVersion shared = (.error fault, after)) :
    connection.perform session .count shared = ((.error fault, session.edit .reset), after) ∧
      connection.operationRequests session .count shared = connection.versionRequests shared := by
  have plan := connection.onSource_plan session
    (session.plan_count connection.config connection.primaryKey) resolved shared
  have compiled : connection.readCommand session.target
      (session.options.editAll [.count countLabel]) shared = (.error fault, after) :=
    connection.readCommand_of_unversioned session.target rfl unknown
  refine ⟨?_, ?_⟩
  · rw [perform_eq, plan]
    simp only [carryOut_read, compiled]
  · rw [operationRequests, plan]
    simp only [planRequests, compiled, List.append_nil]
    rfl

theorem executed_count {shared : Shared σ τ} (accepted : session.verdict? .count = none) :
    connection.Executed session shared .count := by
  have resolved := session.resolved_of_verdict?_eq_none accepted
  have planned := session.plan_count connection.config connection.primaryKey
  generalize known : connection.serverVersion shared = versioned
  obtain ⟨version, after⟩ := versioned
  cases version with
  | ok version =>
      refine connection.executed_of_compiled session planned resolved
        (connection.readCommand_of_counted session.target rfl known) ?_
      rw [readCommandRequests]
      exact .count (congrArg Prod.fst known)
  | error fault =>
      have unknown : (connection.serverVersion shared).1 = .error fault := congrArg Prod.fst known
      obtain ⟨asked, replied⟩ := connection.serverVersion_eq_error unknown
      obtain ⟨performed, sent⟩ := connection.perform_count_of_unversioned session resolved known
      refine ⟨?_, ?_⟩
      · rw [sent, asked, performed]
        exact .unversioned unknown
      · intro other failed
        rw [sent, asked]
        rw [performed] at failed
        cases failed
        exact ⟨_, List.mem_singleton_self _, shared.executor, replied⟩

theorem executed (reached : connection.Reaches session)
    (accepted : session.verdict? operation = none)
    (shared : Shared σ τ) : connection.Executed session shared operation := by
  by_cases reads : operation.intent = .read
  · by_cases counts : operation = .count
    · subst counts
      exact connection.executed_count session accepted
    · exact connection.executed_read session reached.countLabel_eq_none accepted reads counts
  · exact connection.executed_write session accepted reads

/-- An operation with a verdict is answered by it and nothing happens; every other operation is
executed. -/
theorem executes_unless_verdict {connection : Connection σ τ} {session : Session}
    (reached : connection.Reaches session) (operation : Operation) (shared : Shared σ τ) :
    let requests := connection.requests (fun logged => logged.perform session operation) shared
    let answer := (connection.perform session operation shared).1.1
    let after := (connection.perform session operation shared).1.2
    match session.verdict? operation with
    | some verdict =>
      answer = verdict ∧ requests = [] ∧ after.lastStatement = session.lastStatement ∧
        after.lastInsert = session.lastInsert
    | none =>
      connection.Executes session.target shared operation answer requests ∧
        ∀ fault, answer = .error fault → ∃ request ∈ requests, ∃ state,
          (connection.executor.answer request state).1 = .error fault := by
  intro requests answer after
  have sent : requests = connection.operationRequests session operation shared :=
    (Follows.perform connection session operation).requests_eq shared
  cases found : session.verdict? operation with
  | some verdict =>
      have planned := session.plan_of_verdict connection.config connection.primaryKey shared.source
        found
      obtain ⟨performed, quiet⟩ := connection.perform_of_done session planned
      exact ⟨congrArg Prod.fst performed, sent.trans quiet,
        congrArg (fun performed => performed.2.lastStatement) performed,
        congrArg (fun performed => performed.2.lastInsert) performed⟩
  | none =>
      have executed := connection.executed session reached found shared
      rw [sent]
      exact ⟨executed.sends, executed.faults⟩

/-- An update without fields is refused by the session itself, and a count that learns no version is
given up. -/
theorem executes_unless_verdict_out_of_reach :
    let shared : Shared Recorder Nat := ⟨{ failure := some "out of reach" }, 0, none⟩
    let session := (recordedConnection.set (recordedConnection.collection "users")
      (.filter (.singleton "name" (.string "Ann"))) shared).1
    recordedConnection.Reaches session ∧
      (session.verdict? (.update ∅) = some (.error .emptyUpdate) ∧
        recordedConnection.requests (fun logged => logged.perform session (.update ∅)) shared =
          [] ∧
        (recordedConnection.perform session (.update ∅) shared).1.1 = .error .emptyUpdate) ∧
      session.verdict? .count = none ∧
        recordedConnection.Executes ⟨"app", "users"⟩ shared .count
          (.error (.executor "out of reach")) [.version] := by
  intro shared session
  have reached : recordedConnection.Reaches session := .set (.collection "users") _ shared
  have refused : session.verdict? (.update ∅) = some (.error .emptyUpdate) := rfl
  have accepted : session.verdict? .count = none := rfl
  have update := executes_unless_verdict reached (.update ∅) shared
  have count := executes_unless_verdict reached .count shared
  simp only [refused] at update
  simp only [accepted] at count
  exact ⟨reached, ⟨refused, update.2.1, update.1⟩, accepted, count.1⟩

end Connection

end DocQuery
