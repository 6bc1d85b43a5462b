import DocQuery.Proofs.Document.Collecting
import DocQuery.Proofs.Document.Texts
import DocQuery.Proofs.Session.Reading

/-!
# Columns

A column is made of the rows with which the executor answers. One name asks for the values of a
field. Several ask for whole rows, each under the text of its first field: a text has the place of
its first row and holds its last one.

Rows whose first fields have the same text are not told apart, even if the values are different.
So a column has a place for every row exactly if these texts are different, which they are for
different values of one kind.
-/

namespace DocQuery

variable {σ τ : Type}

namespace Column

/-- The text under which a row is kept, if it has the field. -/
def key? (field : String) (row : Document) : Option String :=
  (row.get? field).map Codec.objectIdText

/-- The texts that rows are kept under, each once and in the order in which they come up first, and
under each text the last row that has it, as it is. -/
structure Keys (field : String) (rows : List Document) (keyed : Fields Document) : Prop where
  names : keyed.names = (rows.filterMap (key? field)).eraseDups
  last : ∀ key, keyed.get? key = (rows.filter fun row => key? field row = some key).getLast?

/-- What a column shows of rows, for a list of names. -/
inductive Shows : List String → List Document → Column → Prop where
  | nothing (rows : List Document) : Shows [] rows (.values [])
  /-- The values of the field over the rows that have it, in the order of the rows. -/
  | values {field : String} {rows : List Document} {values : List Value}
      (there : values.map some = (rows.map (·.get? field)).filter Option.isSome) :
      Shows [field] rows (.values values)
  /-- Whole rows under the texts of the first field. The other names make no difference. -/
  | keyed {field : String} (next : String) (others : List String) {rows : List Document}
      {keyed : Fields Document} (keys : Keys field rows keyed) :
      Shows (field :: next :: others) rows (.keyed keyed)

variable {field : String} {rows : List Document}

/-- The rows that have the field, each behind its text. -/
def keyedRows (field : String) (rows : List Document) : List (String × Document) :=
  rows.filterMap fun row => (key? field row).map (·, row)

theorem keyedRows_cons_of_none (rows : List Document) {row : Document}
    (missing : key? field row = none) : keyedRows field (row :: rows) = keyedRows field rows := by
  rw [keyedRows, List.filterMap_cons, missing]
  rfl

theorem keyedRows_cons_of_some (rows : List Document) {row : Document} {key : String}
    (found : key? field row = some key) :
    keyedRows field (row :: rows) = (key, row) :: keyedRows field rows := by
  rw [keyedRows, List.filterMap_cons, found]
  rfl

theorem ofRows_keyed (field next : String) (others : List String) (rows : List Document) :
    ofRows (field :: next :: others) rows = .keyed (.ofList (keyedRows field rows)) := by
  simp only [ofRows, keyedRows, key?, Option.map_map]
  rfl

theorem map_fst_keyedRows (field : String) (rows : List Document) :
    (keyedRows field rows).map Prod.fst = rows.filterMap (key? field) := by
  induction rows with
  | nil => rfl
  | cons row rows ih =>
      cases found : key? field row with
      | none => rw [keyedRows_cons_of_none rows found, List.filterMap_cons_none found, ih]
      | some key =>
          rw [keyedRows_cons_of_some rows found, List.filterMap_cons_some found, List.map_cons, ih]

theorem map_snd_keyedRows (field : String) (rows : List Document) :
    (keyedRows field rows).map Prod.snd = rows.filter fun row => (key? field row).isSome := by
  induction rows with
  | nil => rfl
  | cons row rows ih =>
      cases found : key? field row with
      | none => rw [keyedRows_cons_of_none rows found, ih, List.filter_cons_of_neg (by simp [found])]
      | some key =>
          rw [keyedRows_cons_of_some rows found, List.map_cons, ih,
            List.filter_cons_of_pos (by simp [found])]

/-- Under one text stand the rows that have it. -/
theorem filter_keyedRows (field : String) (rows : List Document) (key : String) :
    (keyedRows field rows).filter (·.1 = key) =
      (rows.filter fun row => key? field row = some key).map (Prod.mk key) := by
  induction rows with
  | nil => rfl
  | cons row rows ih =>
      cases found : key? field row with
      | none =>
          rw [keyedRows_cons_of_none rows found, ih, List.filter_cons_of_neg (by simp [found])]
      | some text =>
          rw [keyedRows_cons_of_some rows found]
          by_cases same : text = key
          · rw [List.filter_cons_of_pos (by simpa using same),
              List.filter_cons_of_pos (by simp [found, same]), List.map_cons, ih, same]
          · rw [List.filter_cons_of_neg (by simpa using same),
              List.filter_cons_of_neg (by simp [found, same]), ih]

/-- Rows stand under their texts in the fields that collect them, and in no others. -/
theorem keys_iff {keyed : Fields Document} :
    Keys field rows keyed ↔ keyed.Collects (keyedRows field rows) := by
  have last : ∀ key, ((keyedRows field rows).filter (·.1 = key)).getLast?.map Prod.snd =
      (rows.filter fun row => key? field row = some key).getLast? := by
    intro key
    rw [filter_keyedRows, List.getLast?_map, Option.map_map]
    exact Option.map_id'
  constructor
  · intro keys
    constructor
    · rw [keys.names, map_fst_keyedRows]
    · intro key
      rw [keys.last, last]
  · intro collects
    constructor
    · rw [collects.names, map_fst_keyedRows]
    · intro key
      rw [collects.values, last]

/-- What there is to show of rows makes one column, and a read gives this one. -/
theorem shows_iff {names : List String} {column : Column} :
    Shows names rows column ↔ column = ofRows names rows := by
  constructor
  · rintro (_ | there | ⟨next, others, keys⟩)
    · rfl
    · rw [← List.map_filterMap_some_eq_filter_map_isSome] at there
      exact congrArg Column.values ((List.map_inj_right fun _ _ => Option.some.inj).mp there)
    · rw [(keys_iff.mp keys).eq_ofList, ofRows_keyed]
  · rintro rfl
    match names with
    | [] => exact .nothing rows
    | [field] => exact .values List.map_filterMap_some_eq_filter_map_isSome
    | field :: next :: others =>
        rw [ofRows_keyed]
        exact .keyed next others (keys_iff.mpr (Fields.collects_ofList _))

/-! ## Rows that all have the field -/

section

variable {values : List Value} (there : rows.map (·.get? field) = values.map some)

include there

theorem map_fst_keyedRows_of_there :
    (keyedRows field rows).map Prod.fst = values.map Codec.objectIdText := by
  have texts : rows.filterMap (key? field) =
      (rows.map (·.get? field)).filterMap (Option.map Codec.objectIdText) :=
    List.filterMap_map.symm
  rw [map_fst_keyedRows, texts, there, List.filterMap_map]
  exact congrFun List.filterMap_eq_map values

theorem map_snd_keyedRows_of_there : (keyedRows field rows).map Prod.snd = rows := by
  rw [map_snd_keyedRows, List.filter_eq_self]
  intro row member
  have found : row.get? field ∈ values.map some := there ▸ List.mem_map_of_mem member
  obtain ⟨value, -, has⟩ := List.mem_map.mp found
  rw [key?, ← has, Option.map_some, Option.isSome_some]

/-- Every row has a place of its own exactly if no text comes twice. -/
theorem map_snd_entries_eq_iff :
    (Fields.ofList (keyedRows field rows)).entries.map Prod.snd = rows ↔
      (values.map Codec.objectIdText).Nodup := by
  have texts := map_fst_keyedRows_of_there there
  have whole := map_snd_keyedRows_of_there there
  rw [← texts]
  constructor
  · intro kept
    have long := congrArg List.length (kept.trans whole.symm)
    rw [List.length_map, List.length_map] at long
    exact Fields.length_entries_ofList_iff.mp long
  · intro distinct
    rw [Fields.ofList_of_nodup distinct]
    exact whole

end

/-! ## Keys of one kind -/

/-- Different values of one kind have different texts. -/
theorem nodup_texts_of_akin {values : List Value}
    (akin : values.Pairwise fun a b => a.Akin b ∧ a ≠ b) :
    (values.map Codec.objectIdText).Nodup := by
  rw [List.Nodup, List.pairwise_map]
  apply akin.imp
  rintro a b ⟨akin, different⟩ same
  exact different (akin.eq_of_text_eq same)

end Column

/-! ## Sessions -/

namespace Connection

variable {connection : Connection σ τ} {session : Session}

/-- A column sends one command, and its answer is made of the reply. -/
theorem exists_column_command (reached : connection.Reaches session)
    (resolved : session.target.fault? = none) (fields : String) (shared : Shared σ τ) :
    ∃ command,
      connection.requests (·.perform session (.column fields)) shared =
          [.command session.target.database command] ∧
        (connection.perform session (.column fields) shared).1.1 =
          (connection.executor.answer (.command session.target.database command)
            shared.executor).1.map (Column.ofRows (Selection.ofList fields).toNames) := by
  have planned : session.plan connection.config connection.primaryKey (.column fields) =
      session.planRead [Session.projectionOf connection.primaryKey fields]
        (Column.ofRows (Selection.namesIn fields)) := rfl
  have uncounted : (session.options.editAll
      [Session.projectionOf connection.primaryKey fields]).countLabel = none :=
    reached.countLabel_eq_none
  have compiled := connection.readCommand_of_uncounted session.target uncounted shared
  generalize aggregateCommand session.target _ = command at compiled
  refine ⟨command, ?_, ?_⟩
  · rw [requests_perform, operationRequests_read planned resolved compiled, readCommandRequests,
      uncounted]
    rfl
  · rw [connection.answer_perform_read session planned resolved compiled, Selection.ofList,
      Selection.ofLists_singleton]
    rfl

/-- Whatever rows come back, a column shows of them what it has names for. -/
theorem column_shows (reached : connection.Reaches session)
    (resolved : session.target.fault? = none) (fields : String) (shared : Shared σ τ) :
    ∃ command,
      connection.requests (·.perform session (.column fields)) shared =
          [.command session.target.database command] ∧
        ∀ rows, (connection.executor.answer (.command session.target.database command)
            shared.executor).1 = .ok rows →
          ∃ column, (connection.perform session (.column fields) shared).1.1 = .ok column ∧
            column.Shows (Selection.ofList fields).toNames rows := by
  obtain ⟨command, sent, answered⟩ := exists_column_command reached resolved fields shared
  refine ⟨command, sent, ?_⟩
  intro rows replied
  refine ⟨_, ?_, Column.shows_iff.mpr rfl⟩
  rw [answered, replied]
  rfl

/-- Names may be blank and may come again, rows may lack the key, and a number and a string may have
the same text: then the later row stands in the place of the earlier one. -/
theorem column_shows_of_four_rows :
    let session := recordedConnection.collection "users"
    let rows : List Document :=
      [.singleton "name" (.string "Ann"), .singleton "id" (.int32 7),
        .singleton "id" (.string "x"), ⟨[("id", .string "7"), ("name", .string "Bob")]⟩]
    let shared : Shared Recorder Nat := ⟨{ rows := [rows] }, 0, none⟩
    recordedConnection.Reaches session ∧ session.target.fault? = none ∧
      ∃ keyed,
        (recordedConnection.perform session (.column " id,, name ,id") shared).1.1 =
            .ok (.keyed keyed) ∧
          Column.Keys "id" rows keyed ∧ keyed.names = ["7", "x"] ∧
          keyed.get? "7" = some ⟨[("id", .string "7"), ("name", .string "Bob")]⟩ := by
  intro session rows shared
  have reached : recordedConnection.Reaches session := .collection "users"
  have resolved : session.target.fault? = none := by decide
  have named : (Selection.ofList " id,, name ,id").toNames = ["id", "name", "id"] := by decide
  obtain ⟨command, -, given⟩ := column_shows reached resolved " id,, name ,id" shared
  obtain ⟨column, answered, shows⟩ := given rows rfl
  rw [named] at shows
  cases shows with
  | keyed next others keys =>
      exact ⟨reached, resolved, _, answered, keys, keys.names.trans (by decide +kernel),
        (keys.last "7").trans rfl⟩

/-- Where all rows have the first of several names, a column has a place for each of them, in their
order, exactly if the texts of the keys are different. Different keys of one kind will do. -/
theorem column_keeps_rows_iff (reached : connection.Reaches session)
    (resolved : session.target.fault? = none) {fields field next : String} {others : List String}
    (named : (Selection.ofList fields).toNames = field :: next :: others) (shared : Shared σ τ) :
    ∃ command,
      connection.requests (·.perform session (.column fields)) shared =
          [.command session.target.database command] ∧
        ∀ (rows : List Document) (keys : List Value),
          (connection.executor.answer (.command session.target.database command)
            shared.executor).1 = .ok rows →
          rows.map (·.get? field) = keys.map some →
          ∃ keyed,
            (connection.perform session (.column fields) shared).1.1 = .ok (.keyed keyed) ∧
              (keyed.entries.map Prod.snd = rows ↔ (keys.map Codec.objectIdText).Nodup) ∧
              ((keys.Pairwise fun a b => a.Akin b ∧ a ≠ b) →
                keyed.entries.map Prod.snd = rows) := by
  obtain ⟨command, sent, answered⟩ := exists_column_command reached resolved fields shared
  refine ⟨command, sent, ?_⟩
  intro rows keys replied there
  have kept := Column.map_snd_entries_eq_iff there
  refine ⟨.ofList (Column.keyedRows field rows), ?_, kept, ?_⟩
  · rw [answered, replied, named, ← Column.ofRows_keyed]
    rfl
  · intro akin
    exact kept.mpr (Column.nodup_texts_of_akin akin)

/-- Two numbers are two keys. -/
theorem column_keeps_rows_of_numbers :
    let session := recordedConnection.collection "users"
    let rows : List Document :=
      [⟨[("code", .int32 7), ("name", .string "Ann")]⟩, .singleton "code" (.int32 (-7))]
    let keys : List Value := [.int32 7, .int32 (-7)]
    let shared : Shared Recorder Nat := ⟨{ rows := [rows] }, 0, none⟩
    recordedConnection.Reaches session ∧ session.target.fault? = none ∧
      (Selection.ofList "code, name").toNames = ["code", "name"] ∧
      rows.map (·.get? "code") = keys.map some ∧ (keys.Pairwise fun a b => a.Akin b ∧ a ≠ b) ∧
      ∃ keyed,
        (recordedConnection.perform session (.column "code, name") shared).1.1 =
            .ok (.keyed keyed) ∧
          keyed.entries.map Prod.snd = rows := by
  intro session rows keys shared
  have reached : recordedConnection.Reaches session := .collection "users"
  have resolved : session.target.fault? = none := by decide
  have named : (Selection.ofList "code, name").toNames = ["code", "name"] := by decide
  have there : rows.map (·.get? "code") = keys.map some := rfl
  have different : Value.int32 7 ≠ .int32 (-7) := fun same =>
    absurd (Value.int32.inj same) (by decide)
  have akin : keys.Pairwise fun a b => a.Akin b ∧ a ≠ b :=
    List.pairwise_pair.mpr ⟨.int32 7 (-7), different⟩
  obtain ⟨command, -, keeps⟩ := column_keeps_rows_iff reached resolved named shared
  obtain ⟨keyed, answered, -, kept⟩ := keeps rows keys rfl there
  exact ⟨reached, resolved, named, there, akin, keyed, answered, kept akin⟩

/-- A number and a string are different keys and have the same text, so one of two rows is lost. -/
theorem row_lost_of_equal_texts :
    let first : Document := ⟨[("code", .int32 7), ("name", .string "Ann")]⟩
    let second : Document := ⟨[("code", .string "7"), ("name", .string "Bob")]⟩
    let keyed : Fields Document := ⟨[("7", second)]⟩
    let shared : Shared Recorder Nat := ⟨{ rows := [[first, second]] }, 0, none⟩
    (Selection.ofList "code, name").toNames = ["code", "name"] ∧
      [first, second].map (·.get? "code") = [some (.int32 7), some (.string "7")] ∧
      Value.int32 7 ≠ .string "7" ∧
      (recordedConnection.perform (recordedConnection.collection "users")
        (.column "code, name") shared).1.1 = .ok (.keyed keyed) ∧
      keyed.entries.map Prod.snd ≠ [first, second] := by
  intro first second keyed shared
  have reached : recordedConnection.Reaches (recordedConnection.collection "users") :=
    .collection "users"
  have named : (Selection.ofList "code, name").toNames = ["code", "name"] := by decide
  have seven : Codec.objectIdText (.int32 7) = "7" := by decide +kernel
  have number : Column.key? "code" first = some "7" := congrArg some seven
  have string : Column.key? "code" second = some "7" := rfl
  have rows : Column.keyedRows "code" [first, second] = [("7", first), ("7", second)] := by
    rw [Column.keyedRows_cons_of_some _ number, Column.keyedRows_cons_of_some _ string]
    rfl
  obtain ⟨command, -, answered⟩ := exists_column_command reached (by decide) "code, name" shared
  refine ⟨named, rfl, Value.noConfusion, ?_, ?_⟩
  · rw [answered, named, funext (Column.ofRows_keyed "code" "name" [])]
    show Except.ok (Column.keyed (.ofList (Column.keyedRows "code" [first, second]))) = _
    rw [rows]
    rfl
  · intro whole
    exact absurd (congrArg List.length whole) (by decide)

end Connection

end DocQuery
