import DocQuery.Client.ScriptedServer
import DocQuery.Proofs.Client.Exchanges

/-!
# Commands as calls

The shape of a command decides what a client does with it. A command that names a collection to be
aggregated is taken apart: the documents of its pipeline become the stages of an aggregation. Every
value of the pipeline is looked at before the driver is called, so a pipeline with a value that is
no document is refused as a whole, and never run in part. The rows are fetched to the end, or as far
as the first fault. Any other command is passed on as it is.
-/

namespace DocQuery

/-- A scripted server gives the rows that are laid out for an aggregation, portion by portion. -/
theorem ScriptedServer.answer_aggregate (target : Namespace) (stages : List Document)
    {server : ScriptedServer} (reachable : server.reachable = true)
    {batches : List (List Document)} {replies : List ScriptedReply}
    (scripted : server.replies = .batches batches :: replies) :
    (ScriptedServer.answer (.aggregate target stages) server).1 = .ok (batches.map .ok) := by
  simp only [answer, reachable, scripted]
  rfl

def Value.document? : Value → Option Document
  | document fields => some fields
  | _ => none

namespace Client

variable {σ : Type}

/-- The values of the pipeline in a command. Where there is no array there are none. -/
def pipelineValues (document : Document) : List Value :=
  match document.get? "pipeline" with
  | some (.array values) => values
  | _ => []

/-- What is wrong with a pipeline that has a value in the place of a stage. -/
def malformedStage (value : Value) : ClientFault :=
  .malformedReply "aggregate" ("pipeline stage is not a document: " ++ value.text)

/-- Values become stages if all are documents. Otherwise the first that is none is complained of. -/
theorem stages_eq (values : List Value) :
    stages values =
      match values.find? (·.document?.isNone) with
      | some other => .error (malformedStage other)
      | none => .ok (values.filterMap Value.document?) := by
  induction values with
  | nil => rfl
  | cons value values ih =>
      cases value with
      | document stage =>
          rw [stages, ih, List.find?_cons_of_neg (by simp [Value.document?])]
          cases values.find? (·.document?.isNone) <;> rfl
      | _ => rfl

theorem stages_of_other {values : List Value} {other : Value}
    (first : values.find? (·.document?.isNone) = some other) :
    stages values = .error (malformedStage other) := by
  rw [stages_eq, first]

theorem stages_of_documents {values : List Value}
    (all : ∀ value ∈ values, value.document?.isSome) :
    stages values = .ok (values.filterMap Value.document?) := by
  have none : values.find? (·.document?.isNone) = none := by
    refine List.find?_eq_none.mpr fun value member => ?_
    rw [← Option.not_isSome, all value member]
    decide
  rw [stages_eq, none]

variable (driver : Driver σ) (database : String) {document : Document}

theorem command_of_collection {collection : String}
    (named : document.get? "aggregate" = some (.string collection)) (state : σ) :
    command driver database document state =
      match stages (pipelineValues document) with
      | .error fault => (.error fault, state)
      | .ok documents => aggregate driver ⟨database, collection⟩ documents state := by
  simp only [command, named, pipelineValues]
  cases document.get? "pipeline" with
  | none => rfl
  | some value =>
      cases value with
      | array values =>
          dsimp only
          cases stages values <;> rfl
      | _ => rfl

/-- A pipeline with a value that is no document is refused before anything is sent. -/
theorem command_of_other {collection : String} {other : Value}
    (named : document.get? "aggregate" = some (.string collection))
    (first : (pipelineValues document).find? (·.document?.isNone) = some other) (state : σ) :
    command driver database document state = (.error (malformedStage other), state) := by
  rw [command_of_collection driver database named, stages_of_other first]

theorem command_of_documents {collection : String}
    (named : document.get? "aggregate" = some (.string collection))
    (all : ∀ value ∈ pipelineValues document, value.document?.isSome) (state : σ) :
    command driver database document state =
      aggregate driver ⟨database, collection⟩
        ((pipelineValues document).filterMap Value.document?) state := by
  rw [command_of_collection driver database named, stages_of_documents all]

theorem command_of_no_collection
    (unnamed : ∀ collection, document.get? "aggregate" ≠ some (.string collection)) (state : σ) :
    command driver database document state =
      ((driver.answer (.runCommand database document) state).1.map fun reply => [reply],
        (driver.answer (.runCommand database document) state).2) := by
  cases given : document.get? "aggregate" with
  | none =>
      simp only [command, given]
      rfl
  | some value =>
      cases value with
      | string collection => exact absurd given (unnamed collection)
      | _ =>
          simp only [command, given]
          rfl

/-- A command that names a collection, but has a pipeline with a value that is no document, makes no
call: it is refused, and the first such value is named. With documents only, or without a pipeline,
it makes the one call that aggregates the collection by these documents. It is answered with all
rows, however many portions they come in, or with the first fault: that of the call, or that of the
first portion that fails to come. A command that names no collection makes one call in which it
stands as it is, and the reply is the only row. -/
theorem command_comes_to_one_call (document : Document) (state : σ) :
    let values := pipelineValues document
    let run := command driver.logged database document ([], state)
    (∀ collection, document.get? "aggregate" = some (.string collection) →
      (∀ other, values.find? (·.document?.isNone) = some other →
        run = (.error (malformedStage other), [], state) ∧
        (executor driver).answer (.command database document) state =
          (.error (.executor ("malformed reply to aggregate: pipeline stage is not a document: " ++
            other.text)), state)) ∧
      ((∀ value ∈ values, value.document?.isSome) →
        let call := Call.aggregate ⟨database, collection⟩ (values.filterMap Value.document?)
        run = ((driver.answer call state).1.bind Cursor.drain, [call],
          (driver.answer call state).2) ∧
        (∀ portions : List (List Document),
          (driver.answer call state).1 = .ok (portions.map .ok) → run.1 = .ok portions.flatten) ∧
        (∀ fault, (driver.answer call state).1 = .error fault ∨
            (∃ (portions : List (List Document)) (rest : Cursor),
              (driver.answer call state).1 = .ok (portions.map .ok ++ .error fault :: rest)) →
          run.1 = .error fault) ∧
        ∀ (server : ScriptedServer) (batches : List (List Document)) (replies),
          server.reachable = true → server.replies = .batches batches :: replies →
            (command ScriptedServer.driver database document server).1 = .ok batches.flatten)) ∧
    ((∀ collection, document.get? "aggregate" ≠ some (.string collection)) →
      let call := Call.runCommand database document
      run = ((driver.answer call state).1.map fun reply => [reply], [call],
        (driver.answer call state).2)) := by
  intro values run
  refine ⟨fun collection named => ⟨fun other first => ?_, fun all => ?_⟩, fun unnamed => ?_⟩
  · have plain := command_of_other driver database named first state
    refine ⟨command_of_other driver.logged database named first ([], state), ?_⟩
    simp only [executor, bind, StateT.bind, plain]
    rfl
  · intro call
    have logged : run = ((driver.answer call state).1.bind Cursor.drain, [call],
        (driver.answer call state).2) :=
      command_of_documents driver.logged database named all ([], state)
    refine ⟨logged, ?_, ?_, ?_⟩
    · intro portions fetched
      rw [logged, fetched]
      exact Cursor.drain_portions portions
    · rintro fault (failed | ⟨portions, rest, fetched⟩)
      · rw [logged, failed]
        rfl
      · rw [logged, fetched]
        exact Cursor.drain_fault portions fault rest
    · intro server batches replies reachable scripted
      rw [command_of_documents ScriptedServer.driver database named all]
      have answered := ScriptedServer.answer_aggregate ⟨database, collection⟩
        (values.filterMap Value.document?) reachable scripted
      exact (congrArg (·.bind Cursor.drain) answered).trans (Cursor.drain_portions batches)
  · exact command_of_no_collection driver.logged database unnamed ([], state)

/-- The second value of the first pipeline is complained of, and nothing is sent. The second command
is answered with the rows of both portions. The third one aggregates no collection, so its pipeline
is the server's affair. -/
theorem command_comes_to_one_call_of_three :
    let stage : Document := ⟨[("$limit", .int32 3)]⟩
    let row (n : Int32) : Document := ⟨[("_id", .int32 n)]⟩
    let broken : Document :=
      ⟨[("aggregate", .string "users"), ("pipeline", .array [.document stage, .int32 7, .null])]⟩
    let sound : Document :=
      ⟨[("pipeline", .array [.document stage, .document stage]), ("aggregate", .string "users")]⟩
    let general : Document := ⟨[("aggregate", .int32 1), ("pipeline", .array [.null])]⟩
    let server : ScriptedServer := { replies := [.batches [[row 1], [row 2, row 3]]] }
    let spoken : ScriptedServer := { replies := [.document (row 4)] }
    command ScriptedServer.driver.logged "app" broken ([], server) =
        (.error (malformedStage (.int32 7)), [], server) ∧
      (command ScriptedServer.driver.logged "app" sound ([], server)).2.1 =
        [.aggregate ⟨"app", "users"⟩ [stage, stage]] ∧
      (command ScriptedServer.driver "app" sound server).1 = .ok [row 1, row 2, row 3] ∧
      (command ScriptedServer.driver.logged "app" general ([], spoken)).2.1 =
        [.runCommand "app" general] ∧
      (command ScriptedServer.driver.logged "app" general ([], spoken)).1 = .ok [row 4] := by
  intro stage row broken sound general server spoken
  have documents : ∀ value ∈ pipelineValues sound, value.document?.isSome := by
    decide
  have unnamed : ∀ collection, general.get? "aggregate" ≠ some (.string collection) := by
    intro collection same
    exact nomatch Option.some.inj same
  have onBroken := command_comes_to_one_call ScriptedServer.driver "app" broken server
  have onSound := command_comes_to_one_call ScriptedServer.driver "app" sound server
  have onGeneral := command_comes_to_one_call ScriptedServer.driver "app" general spoken
  have refused := (onBroken.1 "users" rfl).1 (.int32 7) rfl
  obtain ⟨made, -, -, drained⟩ := (onSound.1 "users" rfl).2 documents
  have passed := onGeneral.2 unnamed
  exact ⟨refused.1, congrArg (·.2.1) made, drained server _ [] rfl rfl,
    congrArg (·.2.1) passed, congrArg Prod.fst passed⟩

end Client

end DocQuery
