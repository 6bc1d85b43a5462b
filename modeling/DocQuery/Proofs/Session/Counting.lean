import DocQuery.Proofs.Session.Reading

/-!
# Counts

A count sends the pipeline of a select with one more stage, and gives the number of rows that the
select gives. Servers count in two ways, by a stage of their own or by putting all rows into one
group, and write the number in two widths. Of both ways it is assumed that no row stands for zero,
and nothing of what the stages in front of the counting one do.
-/

namespace DocQuery

/-- A word of either width that holds a number. -/
inductive Value.Holds (m : Nat) : Value → Prop where
  | int32 {n : Int32} (same : n.toInt = m) : Holds m (.int32 n)
  | int64 {n : Int64} (same : n.toInt = m) : Holds m (.int64 n)

/-- Rows that tell a number. No row tells zero, and any other number is told by the one row that is
made of it. -/
inductive Tells (row : Value → Document) : Nat → List Document → Prop where
  | zero : Tells row 0 []
  | one {m : Nat} {number : Value} (nonzero : m ≠ 0) (holds : number.Holds m) :
      Tells row m [row number]

/-- A server counts the way that its version is asked to. -/
structure Server.Counts (server : Server) (version : ServerVersion) : Prop where
  native : version.hasCountStage = true → ∀ rows : List Document, rows.length ≤ maxRows →
    ∃ reply, server.count countLabel rows = some reply ∧
      Tells (fun number => ⟨[(countLabel, number)]⟩) rows.length reply
  grouped : version.hasCountStage = false → ∀ rows : List Document, rows.length ≤ maxRows →
    ∃ reply,
      server.group ⟨[("_id", .null), (countLabel, .document ⟨[("$sum", .int32 1)]⟩)]⟩ rows =
        some reply ∧
      Tells (fun number => ⟨[("_id", .null), (countLabel, number)]⟩) rows.length reply

/-! ## Decoding -/

theorem Value.Holds.countOfValue {m : Nat} {number : Value} (holds : number.Holds m)
    (bounded : m ≤ Server.maxRows) : (countOfValue number).toNat = m := by
  have most := Server.maxRows_eq
  have size : UInt64.size = 18446744073709551616 := rfl
  have word : (UInt64.ofNat m).toNat = m := UInt64.toNat_ofNat_of_lt' (by omega)
  cases holds with
  | int32 same =>
      rw [DocQuery.countOfValue, same, Int.toNat_natCast, word]
  | int64 same =>
      rw [DocQuery.countOfValue, same, Int.toNat_natCast, word]

theorem Tells.countOfRows {row : Value → Document}
    (labelled : ∀ number, (row number).get? countLabel = some number) {m : Nat}
    {rows : List Document} (tells : Tells row m rows) (bounded : m ≤ Server.maxRows) :
    (countOfRows rows).toNat = m := by
  cases tells with
  | zero => rfl
  | one nonzero holds =>
      simp only [DocQuery.countOfRows, List.head?_cons, Option.bind_some, labelled]
      exact holds.countOfValue bounded

/-- The stage that counts tells the number of rows on either side of the versions. -/
theorem Server.Counts.stage {server : Server} {version : ServerVersion}
    (counts : server.Counts version) {rows : List Document} (bounded : rows.length ≤ maxRows) :
    ∃ reply, server.stage rows (Stage.counting countLabel version).toDocument = some reply ∧
      (countOfRows reply).toNat = rows.length := by
  cases supported : version.hasCountStage with
  | true =>
      obtain ⟨reply, answered, tells⟩ := counts.native supported rows bounded
      refine ⟨reply, ?_, tells.countOfRows (fun number => rfl) bounded⟩
      rw [Stage.counting, supported]
      exact answered
  | false =>
      obtain ⟨reply, answered, tells⟩ := counts.grouped supported rows bounded
      refine ⟨reply, ?_, tells.countOfRows (fun number => rfl) bounded⟩
      rw [Stage.counting, supported]
      exact answered

/-! ## Pipelines -/

/-- Nothing but the counting stage depends on the version, and it comes last. -/
theorem Options.pipeline_count {options : Options} (uncounted : options.countLabel = none)
    (label : String) (version other : ServerVersion) :
    (options.edit (.count label)).pipeline version =
      options.pipeline other ++ [Stage.counting label version] := by
  simp only [pipeline, uncounted, Stage.ofOption_none, List.append_nil]
  rfl

/-- A count sends the pipeline of a select and one more stage, after asking for the version where it
is not known. Whatever rows a server selects by the pipeline, the select gives them and the count
gives their number. -/
theorem Connection.count_agrees {σ τ : Type} {connection : Connection σ τ} {session : Session}
    (reached : connection.Reaches session) (resolved : session.target.fault? = none)
    {shared between : Shared σ τ} {version : ServerVersion}
    (known : connection.serverVersion shared = (.ok version, between)) :
    let stages := session.options.pipeline default
    (∀ shared : Shared σ τ,
      connection.requests (fun logged => logged.perform session .select) shared =
        [.command session.target.database (aggregateCommand session.target stages)]) ∧
    connection.requests (fun logged => logged.perform session .count) shared =
      connection.versionRequests shared ++
        [.command session.target.database (aggregateCommand session.target
          (stages ++ [Stage.counting countLabel version]))] ∧
    ∀ server : Server, connection.executor.Serves server → server.Counts version →
      ∀ rows : List Document,
        server.run (stages.map Stage.toDocument) (server.rows session.target) = some rows →
        rows.length ≤ Server.maxRows →
        (∀ shared : Shared σ τ, (connection.perform session .select shared).1.1 = .ok rows) ∧
          ∃ n : UInt64, (connection.perform session .count shared).1.1 = .ok n ∧
            n.toNat = rows.length := by
  intro stages
  have uncounted := reached.countLabel_eq_none
  have selecting : ∀ shared : Shared σ τ,
      connection.readCommand session.target session.options shared =
        (.ok (aggregateCommand session.target stages), shared) :=
    connection.readCommand_of_uncounted session.target uncounted
  have counting : connection.readCommand session.target
      (session.options.editAll [.count countLabel]) shared =
        (.ok (aggregateCommand session.target
          (stages ++ [Stage.counting countLabel version])), between) := by
    rw [← Options.pipeline_count uncounted]
    exact connection.readCommand_of_counted session.target rfl known
  refine ⟨?_, ?_, ?_⟩
  · intro shared
    rw [(Follows.perform connection session .select).requests_eq,
      Connection.operationRequests_read (session.plan_select _ _) resolved (selecting shared),
      Options.editAll_nil, readCommandRequests, uncounted]
    rfl
  · rw [(Follows.perform connection session .count).requests_eq]
    exact Connection.operationRequests_read (session.plan_count _ _) resolved counting
  · intro server serves counts rows evaluates bounded
    obtain ⟨reply, answered, same⟩ := counts.stage bounded
    refine ⟨?_, countOfRows reply, ?_, same⟩
    · intro shared
      exact connection.answer_served serves (session.plan_select _ _) resolved (selecting shared)
        evaluates
    · refine connection.answer_served serves (session.plan_count _ _) resolved counting ?_
      rw [List.map_append, server.run_append, evaluates]
      exact (server.run_singleton _ rows).trans answered

/-! ## The small server -/

theorem holds_sampleNumber {n : Nat} (bounded : n ≤ Server.maxRows) : (sampleNumber n).Holds n := by
  have most := Server.maxRows_eq
  rw [sampleNumber]
  by_cases short : n ≤ 2147483647
  · rw [if_pos short]
    exact .int32 (Int32.toInt_ofNat_of_lt (by omega))
  · rw [if_neg short]
    exact .int64 (Int64.toInt_ofNat_of_lt (by omega))

/-- The small server counts in both ways, so it may say that it has any version. -/
theorem counts_sampleServer (version : ServerVersion) : sampleServer.Counts version where
  native _ rows bounded := by
    cases rows with
    | nil => exact ⟨[], rfl, .zero⟩
    | cons row rows => exact ⟨_, rfl, .one (Nat.succ_ne_zero _) (holds_sampleNumber bounded)⟩
  grouped _ rows bounded := by
    cases rows with
    | nil => exact ⟨[], rfl, .zero⟩
    | cons row rows => exact ⟨_, rfl, .one (Nat.succ_ne_zero _) (holds_sampleNumber bounded)⟩

/-- A server without a stage for counting is asked for its version, and then for a group. -/
theorem Connection.count_agrees_before_firstCounting :
    let connection := servedConnection sampleServer ⟨3, 2⟩
    let session := sampleSession connection
      [.filter ⟨[("team", .string "red")]⟩, .field (.names ["name"]), .skip 1]
    connection.requests (fun logged => logged.perform session .count) ⟨(), 0, none⟩ =
      [.version, .command "app" (aggregateCommand ⟨"app", "users"⟩
        [.filter ⟨[("team", .string "red")]⟩, .skip 1,
          .project ⟨[("_id", .int32 0), ("name", .int32 1)]⟩,
          .group ⟨[("_id", .null), (countLabel, .document ⟨[("$sum", .int32 1)]⟩)]⟩])] ∧
    ∃ n : UInt64, (connection.perform session .count ⟨(), 0, none⟩).1.1 = .ok n ∧ n.toNat = 2 := by
  intro connection session
  have known : connection.serverVersion ⟨(), 0, none⟩ = (.ok ⟨3, 2⟩, ⟨(), 0, some ⟨3, 2⟩⟩) := rfl
  have reached : connection.Reaches session := reaches_sampleSession connection _
  obtain ⟨-, sent, agrees⟩ := Connection.count_agrees reached rfl known
  obtain ⟨-, n, counted, same⟩ := agrees sampleServer (sampleServer.serves_executor _)
    (counts_sampleServer _) [⟨[("name", .string "cyd")]⟩, ⟨[("name", .string "dee")]⟩] rfl
    (by decide)
  exact ⟨sent, n, counted, same⟩

end DocQuery
