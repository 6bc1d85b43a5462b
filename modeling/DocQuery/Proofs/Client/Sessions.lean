import DocQuery.Proofs.Client.Batches
import DocQuery.Proofs.Session.Verdicts

/-!
# Sessions over a client

Two translations stand between an operation on a session and the calls of a driver. A write is sent
as a bulk write, which the client cuts into calls again. A read is sent as a command, into which the
stages of its pipeline have been put, and the client takes them out again. Neither loses anything:
the bulk write of a session is one batch, and the stages of a command are the stages that were put
into it. So an operation that is executed comes to one call, which says what the operation is about.

A count has to know the version of the server. Where it is not known the call for it comes first,
and where that call brings none it is the only one.
-/

namespace DocQuery

variable {σ τ : Type}

/-- The call that asks a server to describe itself. -/
def Call.buildInfo : Call :=
  .runCommand "admin" (.singleton "buildInfo" (.int32 1))

/-- The call that a write comes to. -/
def Write.call (target : Namespace) (concern : Option DriverConcern) : Write → Call
  | .insert documents => .insertMany target documents true concern
  | .update filter change multi upsert => .update target filter change multi upsert concern
  | .remove filter justOne => .delete target filter justOne concern

/-- The call that an operation comes to: its write, under the write concern of the configuration in
the driver's terms, or else the aggregation of its pipeline, for a server of the given version. -/
def Session.call (session : Session) (config : Config) (key : PrimaryKey τ) (source : τ)
    (version : ServerVersion) (operation : Operation) : Call :=
  match session.write? key source operation.intent with
  | some write => write.call session.target (config.writeConcern.map WriteConcern.toDriver)
  | none =>
    let stages := (session.readOptions config key operation).pipeline version
    .aggregate session.target (stages.map Stage.toDocument)

namespace Session

variable (session : Session) (config : Config) (key : PrimaryKey τ) (source : τ)

/-- Where an insert has no fault there is something to be inserted. -/
theorem write?_ne_insert_nil {intent : Intent} {write : Write}
    (accepted : session.fault? intent = none)
    (meant : session.write? key source intent = some write) : write ≠ .insert [] := by
  cases intent with
  | insert raws =>
      cases meant
      intro nothing
      have stored : (storedEntries key raws source).1.isEmpty = true := by
        have documents := Write.insert.inj nothing
        rw [List.map_eq_nil_iff] at documents
        rw [documents]
        rfl
      rw [isEmpty_storedEntries] at stored
      rw [fault?_eq] at accepted
      cases known : session.target.fault? <;> simp [known, Intent.flaw?, stored] at accepted
  | update raw =>
      cases meant
      exact Write.noConfusion
  | delete =>
      cases meant
      exact Write.noConfusion
  | read => contradiction

end Session

/-! ## Requests as calls -/

namespace Client

variable (driver : Driver σ)

/-- A single call is made, whether or not it is answered. -/
theorem log_makeCalls_singleton (result : WriteResult) (call : Call) (state : List Call × σ) :
    (makeCalls driver.logged result [call] state).2.1 = state.1 ++ [call] := by
  have made : (driver.logged.answer call state).2.1 = state.1 ++ [call] := rfl
  rw [makeCalls_cons]
  cases (driver.logged.answer call state).1 <;> exact made

/-- The operations of a write are one batch. -/
theorem calls_operations (target : Namespace) (concern : Option DriverConcern) {write : Write}
    (something : write ≠ .insert []) :
    calls target concern write.operations = [write.call target concern] := by
  cases write with
  | insert documents =>
      have nonempty : documents ≠ [] := fun none => something (congrArg Write.insert none)
      have apart : ∀ next ∈ (calls target concern []).head?, ¬ next.Inserts := by
        intro next head
        contradiction
      have batch := calls_inserts nonempty apart
      rw [List.append_nil] at batch
      exact batch
  | update filter change multi upsert => rfl
  | remove filter justOne => rfl

/-- A write is one call. -/
theorem log_answer_bulkWrite (target : Namespace) (concern : Option WriteConcern) {write : Write}
    (something : write ≠ .insert []) (state : List Call × σ) :
    ((executor driver.logged).answer (.bulkWrite (write.bulk target concern)) state).2.1 =
      state.1 ++ [write.call target (concern.map WriteConcern.toDriver)] := by
  have single := calls_operations target (concern.map WriteConcern.toDriver) something
  show (bulkWrite driver.logged (write.bulk target concern) state).2.1 = _
  have made : bulkWrite driver.logged (write.bulk target concern) =
      makeCalls driver.logged {} [write.call target (concern.map WriteConcern.toDriver)] :=
    (bulkWrite_eq_makeCalls driver.logged _).trans (congrArg (makeCalls driver.logged {}) single)
  rw [made]
  exact log_makeCalls_singleton driver {} _ state

theorem stages_map_document (documents : List Document) :
    stages (documents.map Value.document) = .ok documents := by
  induction documents with
  | nil => rfl
  | cons document documents ih =>
      rw [List.map_cons, stages, ih]
      rfl

/-- The command of a pipeline is run as the aggregation of its stages. -/
theorem command_aggregateCommand (target : Namespace) (pipeline : List Stage) :
    command driver target.database (aggregateCommand target pipeline) =
      aggregate driver target (pipeline.map Stage.toDocument) := by
  have values : pipeline.map (fun stage => Value.document stage.toDocument) =
      (pipeline.map Stage.toDocument).map Value.document := by
    rw [List.map_map]
    rfl
  have collection : (aggregateCommand target pipeline).get? "aggregate" =
      some (.string target.collection) := rfl
  have items : (aggregateCommand target pipeline).get? "pipeline" =
      some (.array ((pipeline.map Stage.toDocument).map Value.document)) := values ▸ rfl
  simp only [command, collection, items, stages_map_document]

/-- A read is one call. -/
theorem log_answer_aggregateCommand (target : Namespace) (pipeline : List Stage)
    (state : List Call × σ) :
    ((executor driver.logged).answer
        (.command target.database (aggregateCommand target pipeline)) state).2.1 =
      state.1 ++ [.aggregate target (pipeline.map Stage.toDocument)] := by
  have run : command driver.logged target.database (aggregateCommand target pipeline) state =
      aggregate driver.logged target (pipeline.map Stage.toDocument) state :=
    congrFun (command_aggregateCommand driver.logged target pipeline) state
  show (command driver.logged target.database (aggregateCommand target pipeline) state).2.1 = _
  rw [run]
  rfl

end Client

/-! ## Operations as calls -/

namespace Connection

/-- The call that learns the version, as long as it is not known. -/
def versionCalls (connection : Connection σ τ) (shared : Shared σ τ) : List Call :=
  (connection.versionRequests shared).map fun _ => .buildInfo

variable {driver : Driver σ} {connection : Connection (List Call × σ) τ}

theorem log_serverVersion (client : connection.executor = Client.executor driver.logged)
    (shared : Shared (List Call × σ) τ) :
    (connection.serverVersion shared).2.executor.1 =
      shared.executor.1 ++ connection.versionCalls shared := by
  rw [serverVersion, versionCalls, versionRequests]
  cases known : connection.config.serverVersion <|> shared.version with
  | some version =>
      simp only [Option.isSome_some, if_true, List.map_nil, List.append_nil]
  | none =>
      have made : (connection.executor.answer .version shared.executor).2.1 =
          shared.executor.1 ++ [.buildInfo] := by
        rw [client]
        rfl
      simp only [send]
      generalize connection.executor.answer .version shared.executor = answered at made ⊢
      obtain ⟨reply, after⟩ := answered
      cases reply <;> exact made

variable {session : Session} {operation : Operation}

theorem log_perform_write (client : connection.executor = Client.executor driver.logged)
    (accepted : session.verdict? operation = none) (writes : operation.intent ≠ .read)
    (shared : Shared (List Call × σ) τ) (version : ServerVersion) :
    (connection.perform session operation shared).2.executor.1 =
      shared.executor.1 ++ [session.call connection.config connection.primaryKey shared.source
        version operation] := by
  have faultless := (session.unsettled_of_verdict?_eq_none accepted).2
  obtain ⟨write, ids, answer, between, planned, kept, meant⟩ :=
    connection.onSource_plan_of_writes session accepted writes shared
  have something := session.write?_ne_insert_nil connection.primaryKey _ faultless meant
  have made := Client.log_answer_bulkWrite driver session.target connection.config.writeConcern
    something between.executor
  rw [← client] at made
  have carried := connection.carryOut_write_eq session write ids answer between
  rw [perform_eq, planned, Session.call, meant, ← kept, ← made, ← carried.2]

theorem log_perform_read (client : connection.executor = Client.executor driver.logged)
    (accepted : session.verdict? operation = none) (reads : operation.intent = .read)
    {options : Options} (meant : session.readOptions connection.config connection.primaryKey
      operation = options)
    {shared between : Shared (List Call × σ) τ} {version : ServerVersion}
    (compiled : connection.readCommand session.target options shared =
      (.ok (aggregateCommand session.target (options.pipeline version)), between)) :
    (connection.perform session operation shared).2.executor.1 =
      between.executor.1 ++ [session.call connection.config connection.primaryKey shared.source
        version operation] := by
  have resolved := session.resolved_of_verdict?_eq_none accepted
  obtain ⟨answer, planned⟩ := session.plan_eq_planRead connection.config connection.primaryKey reads
    (session.unsettled_of_verdict?_eq_none accepted).1
  have plan : onSource (session.plan connection.config connection.primaryKey operation) shared =
      (.read options answer, shared) := by
    rw [connection.onSource_plan session planned resolved shared, ← meant]
    rfl
  have made := Client.log_answer_aggregateCommand driver session.target (options.pipeline version)
    between.executor
  rw [← client] at made
  have call : session.call connection.config connection.primaryKey shared.source version operation =
      .aggregate session.target ((options.pipeline version).map Stage.toDocument) := by
    rw [Session.call, reads, ← meant]
    rfl
  rw [perform_eq, plan, call, ← made]
  simp only [carryOut_read, compiled, send]
  generalize connection.executor.answer _ between.executor = answered
  obtain ⟨reply, after⟩ := answered
  cases reply <;> rfl

/-- An operation that is executed comes to one call, which does what the operation is about on the
collection of the session. The call for the version of the server may stand in front of a count; it
is the only one if it brings no version, and then its fault is the answer. A command that the
session has made of a pipeline is never passed on as it is, nor refused: it is the aggregation of
this pipeline. -/
theorem perform_calls (client : connection.executor = Client.executor driver.logged)
    (reached : connection.Reaches session) (accepted : session.verdict? operation = none)
    (shared : Shared (List Call × σ) τ) :
    let performed := connection.perform session operation shared
    let made (calls : List Call) := performed.2.executor.1 = shared.executor.1 ++ calls
    let call (version : ServerVersion) := session.call connection.config connection.primaryKey
      shared.source version operation
    (operation ≠ .count → made [call default]) ∧
      (operation = .count →
        (∀ version, (connection.serverVersion shared).1 = .ok version →
          made (connection.versionCalls shared ++ [call version])) ∧
        ∀ fault, (connection.serverVersion shared).1 = .error fault →
          made [.buildInfo] ∧ performed.1.1 = .error fault) ∧
      ∀ target pipeline, Client.command driver target.database (aggregateCommand target pipeline) =
        Client.aggregate driver target (pipeline.map Stage.toDocument) := by
  intro performed made call
  refine ⟨?_, ?_, Client.command_aggregateCommand driver⟩
  · intro plain
    by_cases reads : operation.intent = .read
    · have labelled := session.countLabel_readOptions connection.config connection.primaryKey
        reached.countLabel_eq_none plain
      exact log_perform_read client accepted reads rfl
        (connection.readCommand_of_uncounted session.target labelled shared)
    · exact log_perform_write client accepted reads shared default
  · rintro rfl
    have asked := log_serverVersion client shared
    have resolved := session.resolved_of_verdict?_eq_none accepted
    generalize known : connection.serverVersion shared = learned at asked
    obtain ⟨answer, between⟩ := learned
    refine ⟨?_, ?_⟩
    · rintro version rfl
      have counted : (session.options.editAll [.count countLabel]).countLabel.isSome = true := rfl
      have compiled := connection.readCommand_of_counted session.target counted known
      have log := log_perform_read client accepted rfl rfl compiled
      show performed.2.executor.1 = _
      rw [log, asked, List.append_assoc]
    · rintro fault rfl
      obtain ⟨result, -⟩ := connection.perform_count_of_unversioned session resolved known
      have unknown : (connection.serverVersion shared).1 = .error fault := congrArg Prod.fst known
      have first := (connection.serverVersion_eq_error unknown).1
      rw [versionCalls, first] at asked
      exact ⟨(congrArg (fun ended => ended.2.executor.1) result).trans asked,
        congrArg (fun ended => ended.1.1) result⟩

/-- A connection over a scripted server whose calls are written down, for examples. -/
def scripted : Connection (List Call × ScriptedServer) Nat where
  executor := Client.executor ScriptedServer.driver.logged
  codec := .counting
  config := { database := "app", writeConcern := some { acknowledgment := .majority } }
  flawless := by decide

/-- A limit of one makes the difference between one document and all of them. A count asks for the
version before it is made. -/
theorem perform_calls_of_update_and_count :
    let server : ScriptedServer :=
      { replies := [.document (.singleton "version" (.string "3.6.2"))] }
    let shared : Shared (List Call × ScriptedServer) Nat := ⟨([], server), 0, none⟩
    let users : Namespace := ⟨"app", "users"⟩
    let ann : Document := ⟨[("name", .string "Ann")]⟩
    let change : Document := ⟨[("$set", .document ⟨[("name", .string "Bob")]⟩)]⟩
    let session := (scripted.set (scripted.collection "users") (.filter ann) shared).1
    let first := (scripted.set session (.limit 1) shared).1
    let rename : Operation := .setField "name" (.string "Bob")
    let concern : DriverConcern := { acknowledgment := some .majority }
    scripted.Reaches session ∧ scripted.Reaches first ∧
      (session.verdict? rename = none ∧ (scripted.perform session rename shared).2.executor.1 =
        [.update users ann change true false (some concern)]) ∧
      (first.verdict? rename = none ∧ (scripted.perform first rename shared).2.executor.1 =
        [.update users ann change false false (some concern)]) ∧
      (session.verdict? .count = none ∧ (scripted.perform session .count shared).2.executor.1 =
        [.buildInfo, .aggregate users
          [⟨[("$match", .document ann)]⟩, ⟨[("$count", .string "__count__")]⟩]]) := by
  intro server shared users ann change session first rename concern
  have reached : scripted.Reaches session := .set (.collection "users") _ shared
  have reachedFirst : scripted.Reaches first := reached.set _ shared
  have accepted : session.verdict? rename = none := rfl
  have acceptedFirst : first.verdict? rename = none := rfl
  have counted : session.verdict? .count = none := rfl
  have all := (perform_calls rfl reached accepted shared).1 Operation.noConfusion
  have one := (perform_calls rfl reachedFirst acceptedFirst shared).1 Operation.noConfusion
  have count := ((perform_calls rfl reached counted shared).2.1 rfl).1 ⟨3, 6⟩ rfl
  exact ⟨reached, reachedFirst, ⟨accepted, all⟩, ⟨acceptedFirst, one⟩, counted, count⟩

/-- A count is no aggregation where the server does not say which version it has. -/
theorem exists_count_without_aggregate :
    let shared : Shared (List Call × ScriptedServer) Nat :=
      ⟨([], { replies := [.failure] }), 0, none⟩
    let session := scripted.collection "users"
    scripted.Reaches session ∧ session.verdict? .count = none ∧
      ¬ ∃ asked stages, (asked = [] ∨ asked = [.buildInfo]) ∧
        (scripted.perform session .count shared).2.executor.1 =
          asked ++ [.aggregate session.target stages] := by
  intro shared session
  have log : (scripted.perform session .count shared).2.executor.1 = [.buildInfo] := rfl
  refine ⟨.collection "users", rfl, ?_⟩
  rintro ⟨asked, stages, rfl | rfl, made⟩
  · rw [log] at made
    have first := (List.cons.inj made).1
    contradiction
  · rw [log] at made
    exact List.cons_ne_nil _ _ (List.cons.inj made).2.symm

end Connection

end DocQuery
