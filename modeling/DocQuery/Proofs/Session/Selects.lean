import DocQuery.Proofs.Session.Intents
import DocQuery.Proofs.Session.Isolation
import DocQuery.Proofs.Statement.Options
import DocQuery.Proofs.Statement.Selections

/-!
# Reads as selects

All reads but counts are selects in disguise: a few options are set, a select is run, and something
is made of its rows. Whoever watches the executor or the session cannot tell such a read from the
chain of settings that ends with a select, not even if it fails.

A read overwrites some options of its session. What they were before has no effect on what is sent,
and all other options go into the command as they are.
-/

namespace DocQuery

variable {σ τ : Type}

def Session.editAll (session : Session) (edits : List Options.Edit) : Session :=
  { session with options := session.options.editAll edits }

/-- Nothing is read without a known collection. -/
theorem Session.planRead_of_fault {session : Session} {fault : Fault}
    (known : session.target.fault? = some fault) {α : Type} (edits : List Options.Edit)
    (answer : List Document → α) :
    session.planRead edits answer = (pure (.done (.error fault)) : StateM τ (Plan α)) := by
  rw [planRead, onTarget, known]

namespace Connection

/-- A read is a select behind settings. Some options are overwritten by them, and the answer is made
of the rows. -/
structure SelectsBehind (connection : Connection σ τ) (operation : Operation)
    (settings : Session → List Setting) (overwritten : List OptionKey)
    (answer : List Document → operation.Answer) : Prop where
  requests : ∀ session shared,
    connection.requests (·.perform session operation) shared =
      connection.requests (·.chain session (settings session) .select) shared
  /-- A select that fails makes the read fail alike, and the session remembers the same. -/
  performs : ∀ session shared,
    connection.perform session operation shared =
      let selected := connection.chain session (settings session) .select shared
      ((selected.1.1.map answer, selected.1.2), selected.2)
  /-- The other options are those of the session. -/
  kept : ∀ (session : Session) (shared : Shared σ τ), ∀ key ∉ overwritten,
    ((settings session).foldlM connection.set session shared).1.options.value? key =
      session.options.value? key
  /-- Nothing that was set before of the overwritten options can be told from what is sent. -/
  blind : ∀ a b : Session, a.target = b.target → settings a = settings b →
    (∀ key ∉ overwritten, a.options.value? key = b.options.value? key) →
    ∀ shared, connection.requests (·.perform a operation) shared =
      connection.requests (·.perform b operation) shared

variable (connection : Connection σ τ) (session : Session)

/-- Settings take from the shared state what they take from the source of identifiers. -/
theorem foldlM_set (settings : List Setting) :
    settings.foldlM connection.set session =
      onSource (settings.foldlM (fun session => session.set connection.primaryKey) session) := by
  induction settings generalizing session with
  | nil => rfl
  | cons setting settings ih =>
      rw [List.foldlM_cons, List.foldlM_cons, funext ih]
      rfl

/-- A read does what a select does with the options that the read sets. -/
theorem perform_eq_select {operation : Operation} {edits : List Options.Edit}
    {answer : List Document → operation.Answer}
    (planned : session.plan connection.config connection.primaryKey operation =
      session.planRead edits answer) (shared : Shared σ τ) :
    connection.perform session operation shared =
      let selected := connection.perform (session.editAll edits) .select shared
      ((selected.1.1.map answer, selected.1.2), selected.2) := by
  cases known : session.target.fault? with
  | some fault =>
      have edited : (session.editAll edits).target.fault? = some fault := known
      rw [perform_eq, perform_eq, planned, Session.plan_select, Session.planRead_of_fault known,
        Session.planRead_of_fault edited]
      rfl
  | none =>
      have selects := connection.onSource_plan (session.editAll edits)
        (Session.plan_select _ connection.config connection.primaryKey) known shared
      rw [perform_eq, perform_eq, selects, connection.onSource_plan session planned known shared]
      obtain ⟨target, options, tracer, lastInsert⟩ := session
      simp only [carryOut_read, Session.editAll, Options.editAll_nil]
      generalize connection.readCommand _ _ shared = compiled
      obtain ⟨command, between⟩ := compiled
      cases command with
      | error fault => rfl
      | ok command =>
          simp only
          generalize connection.send _ between = replied
          obtain ⟨rows, after⟩ := replied
          cases rows <;> rfl

/-- Settings that need no identifiers and then a select. -/
theorem chain_select {settings : List Setting} {edits : List Options.Edit}
    (written : ∀ source, settings.foldlM (fun session => session.set connection.primaryKey) session
      source = (session.editAll edits, source)) (shared : Shared σ τ) :
    connection.chain session settings .select shared =
      connection.perform (session.editAll edits) .select shared := by
  have settled : settings.foldlM connection.set session shared =
      (session.editAll edits, shared) := by
    rw [foldlM_set, onSource, written]
  simp only [chain, bind, StateT.bind, settled]

/-- A read whose plan has the changes of some settings is a select behind them. -/
theorem selectsBehind_of_planRead {operation : Operation} {settings : Session → List Setting}
    {overwritten : List OptionKey} {answer : List Document → operation.Answer}
    (edits : Session → List Options.Edit)
    (planned : ∀ session : Session, session.plan connection.config connection.primaryKey operation =
      session.planRead (edits session) answer)
    (written : ∀ (session : Session) source,
      (settings session).foldlM (fun session => session.set connection.primaryKey) session source =
        (session.editAll (edits session), source))
    (settled : ∀ a b, settings a = settings b → edits a = edits b)
    (silent : ∀ session key,
      Options.lastWord? (edits session) key = none ↔ key ∉ overwritten) :
    connection.SelectsBehind operation settings overwritten answer := by
  refine ⟨?_, ?_, ?_, ?_⟩
  · intro session shared
    have performed := connection.logged.perform_eq_select session (planned session)
      (shared.withLog [])
    rw [requests, performed, requests, connection.logged.chain_select session (written session)]
  · intro session shared
    rw [connection.chain_select session (written session),
      connection.perform_eq_select session (planned session)]
  · intro session shared key free
    rw [foldlM_set, onSource, written]
    show (session.options.editAll (edits session)).value? key = _
    rw [Options.value?_editAll, (silent session key).mpr free]
    rfl
  · intro a b target same agree shared
    have options : a.options.editAll (edits a) = b.options.editAll (edits b) := by
      rw [settled a b same]
      exact Options.editAll_eq_of_agree fun key unsaid => agree key ((silent b key).mp unsaid)
    have alike : (a.editAll (edits a)).Alike (b.editAll (edits b)) := ⟨target, options⟩
    rw [requests, connection.logged.perform_eq_select a (planned a), requests,
      connection.logged.perform_eq_select b (planned b)]
    exact congrArg (·.executor.1)
      (connection.logged.agree_perform alike .select (shared.withLog [])).shared

end Connection

namespace Connection

variable (connection : Connection σ τ)

theorem selectsBehind_find :
    connection.SelectsBehind .find (fun _ => [.limit 1]) [.limit] List.head? := by
  refine connection.selectsBehind_of_planRead (fun _ => [.limit 1]) (fun _ => rfl)
    (fun _ _ => rfl) (fun _ _ _ => rfl) fun _ key => ?_
  cases key <;> simp [Options.lastWord?, Options.Edit.word?]

/-- The name is trimmed before its field is selected, which makes no difference to the selection. -/
theorem selectsBehind_value {field : String} (visible : Text.trim field ≠ "")
    (single : ',' ∉ field.toList) :
    connection.SelectsBehind (.value field) (fun _ => [.field (.ofList field), .limit 1])
      [.projection, .limit] fun rows => rows.head?.bind (·.get? (Text.trim field)) := by
  have named : Selection.IsName (Text.trim field) := Selection.isName_trim visible single
  have same : Selection.ofList (Text.trim field) = Selection.ofList field := by
    simp only [Selection.ofList, Selection.ofLists_singleton,
      Selection.namesIn_of_single visible single, Selection.namesIn_of_isName named]
  refine connection.selectsBehind_of_planRead
    (fun _ => [Session.projectionOf connection.primaryKey field, .limit 1]) ?_
    (fun _ _ => rfl) (fun _ _ _ => rfl) fun _ key => ?_
  · intro session
    rw [Session.plan, if_neg (not_or.mpr ⟨visible, named.single⟩), Session.projectionOf, same]
    rfl
  · cases key <;> simp [Options.lastWord?, Options.Edit.word?, Session.projectionOf]

theorem selectsBehind_column (fields : String) :
    connection.SelectsBehind (.column fields) (fun _ => [.field (.ofList fields)])
      [.projection] (Column.ofRows (Selection.namesIn fields)) := by
  refine connection.selectsBehind_of_planRead
    (fun _ => [Session.projectionOf connection.primaryKey fields]) (fun _ => rfl)
    (fun _ _ => rfl) (fun _ _ _ => rfl) fun _ key => ?_
  cases key <;> simp [Options.lastWord?, Options.Edit.word?, Session.projectionOf]

theorem selectsBehind_page (number : Int64) :
    connection.SelectsBehind (.page number)
      (fun session =>
        let limit := session.pageLimit connection.config
        [.limit limit, .skip (Session.pageSkip number limit)])
      [.limit, .skip] id := by
  refine connection.selectsBehind_of_planRead
    (fun session => session.pageEdits connection.config number) (fun _ => rfl)
    (fun _ _ => rfl) ?_ fun _ key => ?_
  · intro a b same
    have limit : a.pageLimit connection.config = b.pageLimit connection.config :=
      Setting.limit.inj (List.head_eq_of_cons_eq same)
    rw [Session.pageEdits, Session.pageEdits, limit]
  · cases key <;> simp [Options.lastWord?, Options.Edit.word?, Session.pageEdits]

/-- Reads are selects in disguise: the first row, the value of a field in it, fields of all rows and
the rows of a page are what a select gives behind one or two settings, whatever state the session is
in. -/
theorem reads_are_selects :
    connection.SelectsBehind .find (fun _ => [.limit 1]) [.limit] List.head? ∧
    (∀ field, Text.trim field ≠ "" → ',' ∉ field.toList →
      connection.SelectsBehind (.value field) (fun _ => [.field (.ofList field), .limit 1])
        [.projection, .limit] fun rows => rows.head?.bind (·.get? (Text.trim field))) ∧
    (∀ fields,
      connection.SelectsBehind (.column fields) (fun _ => [.field (.ofList fields)])
        [.projection] (Column.ofRows (Selection.namesIn fields))) ∧
    ∀ number,
      connection.SelectsBehind (.page number)
        (fun session =>
          let limit := (session.options.limit.filter (· ≠ 0)).getD connection.config.pageSize
          let skip := (max number.toInt 1 - 1).toNat * limit.toNat
          [.limit limit, .skip (.ofNat (min skip (UInt64.size - 1)))])
        [.limit, .skip] id := by
  refine ⟨connection.selectsBehind_find, fun field => connection.selectsBehind_value,
    connection.selectsBehind_column, fun number => ?_⟩
  have page := connection.selectsBehind_page number
  simp only [Session.pageSkip_eq_ofNat] at page
  exact page

/-- Neither the selection nor the limit that were set before reaches the server; the order does. -/
theorem reads_are_selects_of_one_name :
    let shared : Shared Recorder Nat :=
      ⟨{ rows := [[.singleton "name" (.string "Ann"), .singleton "name" (.string "Bob")]] }, 0,
        none⟩
    let byName : Document := .singleton "name" (.int32 1)
    let session := ([.field (.ofList "age"), .sort byName, .limit 7] : List Setting).foldl
      (fun session setting => (recordedConnection.set session setting shared).1)
      (recordedConnection.collection "users")
    Text.trim " name" ≠ "" ∧ ',' ∉ " name".toList ∧
      recordedConnection.requests (·.perform session (.value " name")) shared =
        [.command "app" (aggregateCommand ⟨"app", "users"⟩
          [.sort byName, .limit 1, .project ⟨[("_id", .int32 0), ("name", .int32 1)]⟩])] ∧
      (recordedConnection.perform session (.value " name") shared).1.1 =
        .ok (some (.string "Ann")) := by
  intro shared byName session
  have visible : Text.trim " name" ≠ "" := by decide
  have single : ',' ∉ " name".toList := by decide
  have value := (reads_are_selects recordedConnection).2.1 " name" visible single
  refine ⟨visible, single, ?_, ?_⟩
  · rw [value.requests]
    rfl
  · rw [value.performs]
    rfl

end Connection

end DocQuery
