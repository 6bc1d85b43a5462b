import DocQuery.Proofs.Server.Reading
import DocQuery.Proofs.Session.Reading

/-!
# Pages

Pages tile the rows that a read finds: a page starts where the one before has ended, and no row is
lost or shown twice. The numbers of rows on the way are words, first the product that saturates and
then the signed word in the stage, and both cuts are invisible on lists of rows that a signed word
can count.
-/

namespace DocQuery

variable {σ τ : Type} {server : Server} {connection : Connection σ τ} {session : Session}

theorem Config.pageSize_ne_zero {config : Config} (flawless : config.flaw? = none) :
    config.pageSize ≠ 0 := by
  intro zero
  rw [flaw?, if_pos zero] at flawless
  split at flawless <;> contradiction

theorem Session.pageLimit_ne_zero (connection : Connection σ τ) (session : Session) :
    session.pageLimit connection.config ≠ 0 := by
  have size := Config.pageSize_ne_zero connection.flawless
  rw [pageLimit]
  rcases session.options.limit with _ | n
  · exact size
  · by_cases zero : n = 0
    · subst zero
      exact size
    · rw [Options.positive_some zero]
      exact zero

theorem Session.toNat_pageSkip (number : Int64) (limit : UInt64) :
    (pageSkip number limit).toNat =
      min ((max number.toInt 1 - 1).toNat * limit.toNat) (UInt64.size - 1) := by
  have fits : UInt64.size - 1 < UInt64.size := by decide
  rw [pageSkip_eq_ofNat]
  exact UInt64.toNat_ofNat_of_lt' (Nat.lt_of_le_of_lt (Nat.min_le_right _ _) fits)

/-- The product of a page saturates far behind the last row. -/
theorem Session.drop_pageSkip (number : Int64) (limit : UInt64) {rows : List Document}
    (bounded : rows.length ≤ Server.maxRows) :
    rows.drop (pageSkip number limit).toNat =
      rows.drop ((max number.toInt 1 - 1).toNat * limit.toNat) := by
  rw [toNat_pageSkip]
  apply List.drop_eq_drop_iff.mpr
  have most := Server.maxRows_eq
  have size : UInt64.size = 18446744073709551616 := rfl
  omega

/-- The window of a page counts in unbounded numbers, and knows nothing of the skip that was set. -/
theorem Session.window_page (connection : Connection σ τ) (session : Session) (number : Int64)
    {rows : List Document} (bounded : rows.length ≤ Server.maxRows) :
    (session.options.editAll (session.pageEdits connection.config number)).window rows =
      (rows.drop ((max number.toInt 1 - 1).toNat *
        (session.pageLimit connection.config).toNat)).take
          (session.pageLimit connection.config).toNat := by
  have nonzero := session.pageLimit_ne_zero connection
  rw [pageEdits]
  generalize session.pageLimit connection.config = limit at nonzero ⊢
  rw [← drop_pageSkip number limit bounded]
  simp only [Options.editAll_cons, Options.editAll_nil, Options.edit, Options.window,
    Options.positive_some nonzero, Option.getD_some]

/-- What a read on a served connection gives, if it does not count. -/
theorem Connection.answer_read (serves : connection.executor.Serves server)
    {operation : Operation} {edits : List Options.Edit} {answer : List Document → operation.Answer}
    (planned : session.plan connection.config connection.primaryKey operation =
      session.planRead edits answer)
    (resolved : session.target.fault? = none)
    (uncounted : (session.options.editAll edits).countLabel = none) {all : List Document}
    (found : server.found (session.options.editAll edits) (server.rows session.target) = some all)
    (bounded : all.length ≤ Server.maxRows) {view : Document → Document}
    (shown : server.shown (session.options.editAll edits) = some view) (shared : Shared σ τ) :
    (connection.perform session operation shared).1.1 =
      .ok (answer (((session.options.editAll edits).window all).map view)) := by
  have compiled := connection.readCommand_of_uncounted session.target uncounted shared
  refine connection.answer_served serves planned resolved compiled ?_
  rw [server.run_pipeline uncounted default found bounded, shown]
  rfl

/-- Windows of one length that start where the last one has ended make up the front of a list. -/
theorem flatMap_window {α : Type} (rows : List α) (length k : Nat) :
    (List.range k).flatMap (fun i => (rows.drop (i * length)).take length) =
      rows.take (k * length) := by
  induction k with
  | zero => simp
  | succ k ih =>
      rw [List.range_succ, List.flatMap_append, ih, Nat.succ_mul, List.take_add,
        List.flatMap_singleton]

/-- A page shows the rows that are found from its start on, in unbounded numbers and whatever skip
was set, and the pages up to any number make up the front of what the same options select without a
limit. -/
theorem Connection.pages_tile (serves : connection.executor.Serves server)
    (reached : connection.Reaches session) (resolved : session.target.fault? = none)
    {all : List Document}
    (found : server.found session.options (server.rows session.target) = some all)
    (bounded : all.length ≤ Server.maxRows) {view : Document → Document}
    (shown : server.shown session.options = some view) :
    let length := ((session.options.limit.filter (· ≠ 0)).getD connection.config.pageSize).toNat
    let unpaged := (session.edit (.remove .limit)).edit (.remove .skip)
    (∀ number shared, (connection.perform session (.page number) shared).1.1 =
        .ok (((all.drop ((max number.toInt 1 - 1).toNat * length)).take length).map view)) ∧
      ∀ (k : Nat) (states : Nat → Shared σ τ), (k : Int) ≤ Int64.maxValue.toInt →
        ∃ pages : Nat → List Document, ∃ everything : List Document,
          (∀ i < k, (connection.perform session (.page (.ofNat (i + 1))) (states i)).1.1 =
            .ok (pages i)) ∧
          (∀ shared, (connection.perform unpaged .select shared).1.1 = .ok everything) ∧
          (List.range k).flatMap pages = everything.take (min (k * length) all.length) := by
  intro length unpaged
  have uncounted := reached.countLabel_eq_none
  have page : ∀ number shared, (connection.perform session (.page number) shared).1.1 =
      .ok (((all.drop ((max number.toInt 1 - 1).toNat * length)).take length).map view) := by
    intro number shared
    rw [connection.answer_read serves (session.plan_page _ _ number) resolved uncounted found
      bounded shown shared, Session.window_page connection session number bounded]
    rfl
  refine ⟨page, ?_⟩
  intro k states least
  refine ⟨fun i => ((all.drop (i * length)).take length).map view, all.map view, ?_, ?_, ?_⟩
  · intro i before
    have word : (Int64.ofNat (i + 1)).toInt = ((i + 1 : Nat) : Int) :=
      Int64.toInt_ofNat_of_lt (by
        have largest : Int64.maxValue.toInt = 9223372036854775807 := rfl
        omega)
    have start : (max (Int64.ofNat (i + 1)).toInt 1 - 1).toNat = i := by omega
    rw [page, start]
  · intro shared
    exact connection.answer_read serves (unpaged.plan_select _ _) resolved uncounted found bounded
      shown shared
  · rw [← List.map_take, ← List.take_eq_take_min, ← flatMap_window, List.map_flatMap]

/-- Pages of two rows, where a skip was set before. -/
theorem Connection.pages_tile_in_twos :
    let connection := servedConnection sampleServer default
    let session := sampleSession connection
      [.filter ⟨[("team", .string "red")]⟩, .field (.names ["name"]), .skip 3, .limit 2]
    let shared : Shared Unit Nat := ⟨(), 0, none⟩
    (connection.perform session (.page 2) shared).1.1 = .ok [⟨[("name", .string "dee")]⟩] ∧
      (connection.perform session (.page Int64.maxValue) shared).1.1 = .ok [] ∧
      ∃ pages : Nat → List Document, ∃ everything : List Document,
        (∀ i < 2, (connection.perform session (.page (.ofNat (i + 1))) shared).1.1 =
          .ok (pages i)) ∧
        (∀ shared, (connection.perform ((session.edit (.remove .limit)).edit (.remove .skip))
          .select shared).1.1 = .ok everything) ∧
        (List.range 2).flatMap pages = everything.take 3 := by
  intro connection session shared
  have serves : connection.executor.Serves sampleServer := sampleServer.serves_executor _
  have reached : connection.Reaches session := reaches_sampleSession connection _
  have found : sampleServer.found session.options (sampleServer.rows session.target) =
      some [sampleUser 1 "ada" "red", sampleUser 3 "cyd" "red", sampleUser 4 "dee" "red"] := rfl
  obtain ⟨page, tiles⟩ := Connection.pages_tile serves reached rfl found (by decide) rfl
  exact ⟨page 2 shared, page Int64.maxValue shared, tiles 2 (fun _ => shared) (by decide)⟩

end DocQuery
