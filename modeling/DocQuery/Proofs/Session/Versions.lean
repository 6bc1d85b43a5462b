import DocQuery.Proofs.Session.Verdicts

/-!
# What is known of the server's version

A configuration may say which version the server has. Otherwise the executor is asked, and what it
says first is kept for all sessions of the connection. What has become known in a run can be told
from outside: it is the first version that the executor has given. What is kept is never anything
else, whatever the executor would say later on, and nothing is kept of a question that it has failed
to answer.

Only counts on a known collection ask. That a session is waiting to count is never seen between two
operations, so no other operation comes to ask in the place of a count.
-/

namespace DocQuery

variable {σ τ : Type}

def Request.asksVersion : Request → Bool
  | .version => true
  | .bulkWrite _ => false
  | .command _ _ => false

namespace Connection

variable (connection : Connection σ τ)

/-- The version that the executor gives when requests are sent: its reply to the question for it, if
there is one among them. The question is always sent first. -/
def givenBy (shared : Shared σ τ) (requests : List Request) : Option ServerVersion :=
  if requests.any Request.asksVersion then
    (connection.executor.answer .version shared.executor).1.toOption
  else none

@[simp] theorem givenBy_nil (shared : Shared σ τ) : connection.givenBy shared [] = none := rfl

theorem givenBy_append_of_not_asks (shared : Shared σ τ) (requests : List Request)
    {later : List Request} (quiet : later.any Request.asksVersion = false) :
    connection.givenBy shared (requests ++ later) = connection.givenBy shared requests := by
  rw [givenBy, List.any_append, quiet, Bool.or_false, givenBy]

/-! ## Operations -/

/-- What is kept is the version that was there before, and otherwise the one that is given. -/
theorem version_serverVersion (shared : Shared σ τ) :
    (connection.serverVersion shared).2.version =
      shared.version.or (connection.givenBy shared (connection.versionRequests shared)) := by
  rw [serverVersion, versionRequests]
  cases known : connection.config.serverVersion <|> shared.version with
  | some version =>
      simp only [Option.isSome_some, if_true, givenBy_nil]
      exact Option.or_none.symm
  | none =>
      rw [Option.orElse_eq_orElse, Option.orElse_eq_or, Option.or_eq_none_iff] at known
      simp only [send, Option.isSome_none, Bool.false_eq_true, if_false, known.2, givenBy,
        List.any_cons, Request.asksVersion, Bool.true_or, if_true]
      generalize connection.executor.answer .version shared.executor = answered
      obtain ⟨reply, after⟩ := answered
      cases reply <;> rfl

theorem version_readCommand (target : Namespace) (options : Options) (shared : Shared σ τ) :
    (connection.readCommand target options shared).2.version =
      shared.version.or
        (connection.givenBy shared (connection.readCommandRequests options shared)) := by
  rw [readCommand, readCommandRequests]
  by_cases counts : options.countLabel.isSome
  · rw [if_pos counts, if_pos counts]
    exact connection.version_serverVersion shared
  · rw [if_neg counts, if_neg counts]
    exact Option.or_none.symm

theorem version_of_send {request : Request} {reply : Except Fault request.Reply}
    {shared after : Shared σ τ} (sent : connection.send request shared = (reply, after)) :
    after.version = shared.version :=
  congrArg (·.2.version) sent.symm

/-- Carrying out a plan keeps nothing but the version that it is given. -/
theorem version_carryOut {α : Type} (session : Session) (plan : Plan α) (shared : Shared σ τ) :
    (connection.carryOut session plan shared).2.version =
      shared.version.or
        (connection.givenBy shared (connection.planRequests session.target plan shared)) := by
  have ends := connection.ends_carryOut session plan shared
  generalize connection.carryOut session plan shared = carried at ends ⊢
  cases ends with
  | done answer => exact Option.or_none.symm
  | unwritten failed => exact (connection.version_of_send failed).trans Option.or_none.symm
  | written replied => exact (connection.version_of_send replied).trans Option.or_none.symm
  | @uncompiled options answer fault after unknown =>
      have kept := connection.version_readCommand session.target options shared
      rw [planRequests, unknown, List.append_nil]
      rw [unknown] at kept
      exact kept
  | @unread options answer command between fault after compiled failed =>
      have kept := connection.version_readCommand session.target options shared
      rw [planRequests, compiled, connection.givenBy_append_of_not_asks shared _ rfl,
        connection.version_of_send failed]
      rw [compiled] at kept
      exact kept
  | @read options answer command between rows after compiled replied =>
      have kept := connection.version_readCommand session.target options shared
      rw [planRequests, compiled, connection.givenBy_append_of_not_asks shared _ rfl,
        connection.version_of_send replied]
      rw [compiled] at kept
      exact kept

theorem version_perform (session : Session) (operation : Operation) (shared : Shared σ τ) :
    (connection.perform session operation shared).2.version =
      shared.version.or
        (connection.givenBy shared (connection.operationRequests session operation shared)) :=
  connection.version_carryOut session _ _

theorem unknown_of_mem_versionRequests {shared : Shared σ τ} {request : Request}
    (sent : request ∈ connection.versionRequests shared) :
    connection.config.serverVersion.or shared.version = none := by
  rw [versionRequests, Option.orElse_eq_orElse, Option.orElse_eq_or] at sent
  cases known : connection.config.serverVersion.or shared.version with
  | some version =>
      rw [known] at sent
      exact absurd sent List.not_mem_nil
  | none => rfl

/-- Only a count on a known collection asks for the version, and only as long as it is not known. -/
theorem counts_of_version_mem {session : Session} (reached : connection.Reaches session)
    {operation : Operation} {shared : Shared σ τ}
    (asks : Request.version ∈ connection.operationRequests session operation shared) :
    operation = .count ∧ session.target.fault? = none ∧
      connection.config.serverVersion.or shared.version = none := by
  cases found : session.verdict? operation with
  | some verdict =>
      have planned := session.plan_of_verdict connection.config connection.primaryKey shared.source
        found
      rw [(connection.perform_of_done session planned).2] at asks
      exact absurd asks List.not_mem_nil
  | none =>
      have resolved := session.resolved_of_verdict?_eq_none found
      have sends := (connection.executed session reached found shared).sends
      generalize connection.operationRequests session operation shared = sent at asks sends
      generalize (connection.perform session operation shared).1.1 = answer at sends
      cases sends with
      | write writes there => cases List.mem_singleton.mp asks
      | read reads plain => cases List.mem_singleton.mp asks
      | count known =>
          rcases List.mem_append.mp asks with first | last
          · exact ⟨rfl, resolved, connection.unknown_of_mem_versionRequests first⟩
          · cases List.mem_singleton.mp last
      | unversioned unknown =>
          have asked := (connection.serverVersion_eq_error unknown).1
          have first : Request.version ∈ connection.versionRequests shared := asked ▸ asks
          exact ⟨rfl, resolved, connection.unknown_of_mem_versionRequests first⟩

end Connection

/-- The request that a count makes of its session, for a server of the given version. -/
def Session.countRequest (session : Session) (version : ServerVersion) : Request :=
  .command session.target.database
    (aggregateCommand session.target ((session.options.edit (.count countLabel)).pipeline version))

namespace Connection

variable (connection : Connection σ τ) (session : Session) {shared : Shared σ τ}

theorem operationRequests_count (resolved : session.target.fault? = none)
    {between : Shared σ τ} {version : ServerVersion}
    (learned : connection.serverVersion shared = (.ok version, between)) :
    connection.operationRequests session .count shared =
      connection.versionRequests shared ++ [session.countRequest version] := by
  have counted : (session.options.editAll [.count countLabel]).countLabel.isSome = true := rfl
  exact operationRequests_read (session.plan_count _ _) resolved
    (connection.readCommand_of_counted session.target counted learned)

/-- A version that is known is not asked for, and the count is made for it. -/
theorem operationRequests_count_of_known (resolved : session.target.fault? = none)
    {version : ServerVersion}
    (known : connection.config.serverVersion.or shared.version = some version) :
    connection.operationRequests session .count shared = [session.countRequest version] := by
  have same : (connection.config.serverVersion <|> shared.version) = some version := by
    rw [Option.orElse_eq_orElse, Option.orElse_eq_or, known]
  have learned : connection.serverVersion shared = (.ok version, shared) := by
    simp only [serverVersion, same]
  rw [connection.operationRequests_count session resolved learned, versionRequests, same]
  rfl

/-- A version that is not known is asked for once. The count is made for what the executor says, and
is given up if it says nothing. -/
theorem operationRequests_count_of_unknown (resolved : session.target.fault? = none)
    (unknown : connection.config.serverVersion.or shared.version = none) :
    match (connection.executor.answer .version shared.executor).1 with
    | .ok version =>
      connection.operationRequests session .count shared = [.version, session.countRequest version]
    | .error fault =>
      connection.operationRequests session .count shared = [.version] ∧
        (connection.perform session .count shared).1.1 = .error fault := by
  have same : (connection.config.serverVersion <|> shared.version) = none := by
    rw [Option.orElse_eq_orElse, Option.orElse_eq_or, unknown]
  have asked : connection.versionRequests shared = [.version] := by
    rw [versionRequests, same]
    rfl
  generalize replied : connection.executor.answer .version shared.executor = answered
  obtain ⟨reply, after⟩ := answered
  cases reply with
  | ok version =>
      have learned : connection.serverVersion shared =
          (.ok version, { shared with executor := after, version := some version }) := by
        simp only [serverVersion, same, send, replied]
      have sent := connection.operationRequests_count session resolved learned
      rw [asked] at sent
      exact sent
  | error fault =>
      have failed : connection.serverVersion shared =
          (.error fault, { shared with executor := after }) := by
        simp only [serverVersion, same, send, replied]
      obtain ⟨performed, sent⟩ := connection.perform_count_of_unversioned session resolved failed
      exact ⟨sent.trans asked, congrArg (fun ended => ended.1.1) performed⟩

end Connection

/-! ## Runs -/

namespace Workspace

variable (connection : Connection σ τ)

def stepGiven? (workspace : Workspace σ τ) (step : Step) : Option ServerVersion :=
  connection.givenBy workspace.shared (workspace.requests connection [step])

/-- The first version that the executor gives in a run. -/
def given? (workspace : Workspace σ τ) : List Step → Option ServerVersion
  | [] => none
  | step :: steps =>
    (workspace.stepGiven? connection step).or
      (given? (workspace.step connection step) steps)

theorem requests_singleton (workspace : Workspace σ τ) (step : Step) :
    workspace.requests connection [step] = workspace.stepRequests connection step := by
  rw [requests_cons, requests_nil, List.append_nil]

theorem given?_append (workspace : Workspace σ τ) (xs ys : List Step) :
    workspace.given? connection (xs ++ ys) =
      (workspace.given? connection xs).or ((workspace.run connection xs).given? connection ys) := by
  induction xs generalizing workspace with
  | nil => rfl
  | cons step xs ih =>
      rw [List.cons_append, given?, given?, run_cons, ih, Option.or_assoc]

theorem version_step (workspace : Workspace σ τ) (step : Step) :
    (workspace.step connection step).shared.version =
      workspace.shared.version.or (workspace.stepGiven? connection step) := by
  rw [stepGiven?, requests_singleton]
  cases step with
  | openSession name collection => exact Option.or_none.symm
  | set name setting =>
      cases found : workspace.session? name with
      | none =>
          rw [step_set_of_none connection setting found]
          exact Option.or_none.symm
      | some session =>
          rw [step_set_of_some connection setting found]
          exact Option.or_none.symm
  | perform name operation =>
      cases found : workspace.session? name with
      | none =>
          rw [step_perform_of_none connection operation found, stepRequests, found]
          exact Option.or_none.symm
      | some session =>
          rw [step_perform_of_some connection operation found, stepRequests, found]
          exact connection.version_perform session operation workspace.shared

/-- What is kept in a run is the version that was there before, and otherwise the first one that is
given. -/
theorem version_run (workspace : Workspace σ τ) (steps : List Step) :
    (workspace.run connection steps).shared.version =
      workspace.shared.version.or (workspace.given? connection steps) := by
  induction steps generalizing workspace with
  | nil => exact Option.or_none.symm
  | cons step steps ih =>
      rw [run_cons, ih, version_step, given?, Option.or_assoc]

/-- Only a count asks, on a session whose collection is known, and only for what is not known. -/
theorem counts_of_version_mem {workspace : Workspace σ τ} (sessions : workspace.Reached connection)
    {step : Step} (asks : Request.version ∈ workspace.requests connection [step]) :
    connection.config.serverVersion.or workspace.shared.version = none ∧
      ∃ name session, step = .perform name .count ∧ workspace.session? name = some session ∧
        session.target.fault? = none := by
  rw [requests_singleton] at asks
  cases step with
  | openSession name collection => exact absurd asks List.not_mem_nil
  | set name setting => exact absurd asks List.not_mem_nil
  | perform name operation =>
      cases found : workspace.session? name with
      | none =>
          rw [stepRequests, found] at asks
          exact absurd asks List.not_mem_nil
      | some session =>
          rw [stepRequests, found] at asks
          obtain ⟨rfl, resolved, unknown⟩ :=
            connection.counts_of_version_mem (sessions name session found) asks
          exact ⟨unknown, name, session, rfl, found, resolved⟩

section

variable {workspace : Workspace σ τ} {name : String} {session : Session}

theorem requests_count (found : workspace.session? name = some session) :
    workspace.requests connection [.perform name .count] =
      connection.operationRequests session .count workspace.shared := by
  rw [requests_singleton, stepRequests, found]

/-- A count that has to ask is made for what it is told, or fails as the question for the version
has failed. What it is told is given in this step. -/
theorem count_of_unknown (found : workspace.session? name = some session)
    (resolved : session.target.fault? = none)
    (unknown : connection.config.serverVersion.or workspace.shared.version = none) :
    let count : Step := .perform name .count
    match (connection.executor.answer .version workspace.shared.executor).1 with
    | .ok version =>
      workspace.requests connection [count] = [.version, session.countRequest version] ∧
        workspace.stepGiven? connection count = some version
    | .error fault =>
      workspace.requests connection [count] = [.version] ∧
        (workspace.perform connection name .count).1 = some (.error fault) ∧
        workspace.stepGiven? connection count = none := by
  intro count
  have asked := connection.operationRequests_count_of_unknown session resolved unknown
  have requests : workspace.requests connection [count] = _ := requests_count connection found
  have answered : (workspace.perform connection name .count).1 =
      some (connection.perform session .count workspace.shared).1.1 := by
    rw [perform, found]
    rfl
  generalize replied : (connection.executor.answer .version workspace.shared.executor).1 =
    reply at asked ⊢
  cases reply with
  | ok version =>
      have sent := requests.trans asked
      refine ⟨sent, ?_⟩
      rw [stepGiven?, sent, Connection.givenBy, replied]
      rfl
  | error fault =>
      have sent := requests.trans asked.1
      refine ⟨sent, ?_, ?_⟩
      · rw [answered, asked.2]
      · rw [stepGiven?, sent, Connection.givenBy, replied]
        rfl

end

/-- The version is asked for until it has been given once. In every run of any sessions of a
connection, and whatever the executor does:

* it is asked for only by a count on a known collection, and only if neither the configuration nor
  the executor has given one before;
* a count asks once, if it asks at all. If there is a reply, the count is made for it, and the reply
  is what has been given first; if there is none, the count fails alike, sends no command, and still
  nothing has been given;
* what is known is never forgotten, and every count is made for it, whatever the executor would say
  by then. -/
theorem version_asked_until_given (state : σ) (source : τ) (before : List Step) :
    let opened : Workspace σ τ := ⟨⟨state, source, none⟩, ∅⟩
    let reached := opened.run connection before
    let known := connection.config.serverVersion.or (opened.given? connection before)
    (∀ step, Request.version ∈ reached.requests connection [step] →
      known = none ∧ ∃ name session, step = .perform name .count ∧
        reached.session? name = some session ∧ session.target.fault? = none) ∧
    (∀ name session, reached.session? name = some session → session.target.fault? = none →
      let count : Step := .perform name .count
      let sent := reached.requests connection [count]
      match known with
      | some version => sent = [session.countRequest version]
      | none =>
        match (connection.executor.answer .version reached.shared.executor).1 with
        | .ok version =>
          sent = [.version, session.countRequest version] ∧
            opened.given? connection (before ++ [count]) = some version
        | .error fault =>
          sent = [.version] ∧ (reached.perform connection name .count).1 = some (.error fault) ∧
            opened.given? connection (before ++ [count]) = none) ∧
    ∀ version, opened.given? connection before = some version →
      ∀ after, opened.given? connection (before ++ after) = some version := by
  intro opened reached known
  have sessions : reached.Reached connection := (reached_empty _).run before
  have kept : reached.shared.version = opened.given? connection before :=
    version_run connection opened before
  have same : connection.config.serverVersion.or reached.shared.version = known := by rw [kept]
  refine ⟨?_, ?_, ?_⟩
  · intro step asks
    obtain ⟨unknown, counts⟩ := counts_of_version_mem connection sessions asks
    exact ⟨same.symm.trans unknown, counts⟩
  · intro name session found resolved count sent
    cases unknown : known with
    | some version =>
        exact (requests_count connection found).trans
          (connection.operationRequests_count_of_known session resolved (same.trans unknown))
    | none =>
        have nothing : opened.given? connection before = none :=
          (Option.or_eq_none_iff.mp unknown).2
        have given : opened.given? connection (before ++ [count]) =
            reached.stepGiven? connection count := by
          rw [given?_append, nothing]
          exact Option.or_none
        rw [given]
        exact count_of_unknown connection found resolved (same.trans unknown)
  · intro version given after
    rw [given?_append, given]
    rfl

theorem flaw?_upgrading : ({ database := "app" } : Config).flaw? = none := by decide

/-- A connection whose executor fails once, and says at each request that the server is newer, for
examples. -/
def upgrading : Connection Nat Nat where
  executor :=
    { answer := fun request time =>
        let reply : request.Reply :=
          match request with
          | .version => (⟨3, .ofNat time⟩ : ServerVersion)
          | .bulkWrite _ => (default : WriteResult)
          | .command _ _ => ([] : List Document)
        (if time = 0 then .error (.executor "out of reach") else .ok reply, time + 1) }
  codec := .counting
  config := { database := "app" }
  flawless := flaw?_upgrading

/-- One session has failed to learn the version and another one has learned it. By then the server
has a stage for counting, but rows are counted in the way of the version that was given first. -/
theorem version_asked_until_given_by_another_session :
    let before : List Step :=
      [.openSession "q" "users", .openSession "p" "orders", .perform "q" .count,
        .perform "p" .count, .perform "p" .select]
    let opened : Workspace Nat Nat := ⟨⟨0, 0, none⟩, ∅⟩
    let reached := opened.run upgrading before
    opened.requests upgrading before =
        [.version, .version, (upgrading.collection "orders").countRequest ⟨3, 1⟩,
          .command "app" (aggregateCommand ⟨"app", "orders"⟩ [])] ∧
      (upgrading.executor.answer .version reached.shared.executor).1 = .ok .firstCounting ∧
      reached.requests upgrading [.perform "q" .count] =
        [.command "app" (aggregateCommand ⟨"app", "users"⟩
          [.group ⟨[("_id", .null), (countLabel, .document ⟨[("$sum", .int32 1)]⟩)]⟩])] := by
  intro before opened reached
  have found : reached.session? "q" = some (upgrading.collection "users") := rfl
  have counted := (version_asked_until_given upgrading 0 0 before).2.1 "q" _ found rfl
  exact ⟨rfl, rfl, counted⟩

end Workspace

end DocQuery
