import DocQuery.Executor.Basic
import DocQuery.Statement.Pipeline

/-!
# Servers that evaluate pipelines

A server works off the stages of a pipeline in order, each on the rows that the one before has left.
It reads them as documents, the way they are sent. Rows are skipped, limited, and projected one by
one in a fixed way; how a server matches, groups, sorts and counts is its own, and it may refuse
stages that it does not understand.

An executor serves a server if it answers commands with the rows that the server finds. Nothing is
assumed of its other answers, nor of its state.
-/

namespace DocQuery

/-- The data of a server, and what it makes of its stages. -/
structure Server where
  /-- The rows of a collection. -/
  rows : Namespace → List Document
  filter : Document → List Document → Option (List Document)
  group : Document → List Document → Option (List Document)
  sort : Document → List Document → Option (List Document)
  /-- What a projection shows of a row. -/
  project : Document → Option (Document → Document)
  /-- The rows that tell under a label how many rows there are. -/
  count : String → List Document → Option (List Document)

namespace Server

/-- The number of rows that a signed word can hold. -/
def maxRows : Nat := 9223372036854775807

theorem maxRows_eq : maxRows = 9223372036854775807 := rfl

/-- What a stage makes of rows. A limit of zero is refused. -/
def stage (server : Server) (rows : List Document) (stage : Document) : Option (List Document) :=
  match stage.entries with
  | [("$match", .document filter)] => server.filter filter rows
  | [("$group", .document group)] => server.group group rows
  | [("$sort", .document order)] => server.sort order rows
  | [("$skip", .int64 n)] => if 0 ≤ n.toInt then some (rows.drop n.toInt.toNat) else none
  | [("$limit", .int64 n)] => if 0 < n.toInt then some (rows.take n.toInt.toNat) else none
  | [("$project", .document projection)] => (server.project projection).map rows.map
  | [("$count", .string label)] => server.count label rows
  | _ => none

/-- What the stages of a pipeline make of rows, one after another. -/
def run (server : Server) (stages : List Document) (rows : List Document) :
    Option (List Document) :=
  stages.foldlM server.stage rows

/-- The documents among values, all of which have to be documents. -/
def documents? : List Value → Option (List Document)
  | [] => some []
  | .document document :: values => (document :: ·) <$> documents? values
  | _ :: _ => none

/-- The rows that a command asks for. Only commands that run pipelines are understood. -/
def answer (server : Server) (database : String) (command : Document) : Option (List Document) :=
  match command.get? "aggregate", command.get? "pipeline" with
  | some (.string collection), some (.array values) =>
    (documents? values).bind fun stages => server.run stages (server.rows ⟨database, collection⟩)
  | _, _ => none

/-- The executor that asks nobody but the server. Writes find nothing. -/
def executor (server : Server) (version : ServerVersion) : Executor Unit where
  answer
    | .version => pure (.ok version)
    | .bulkWrite _ => pure (.ok (default : WriteResult))
    | .command database command =>
      match server.answer database command with
      | some rows => pure (.ok rows)
      | none => pure (.error (.executor "unrecognized pipeline"))

end Server

/-- The executor answers commands with the rows that the server finds, in every state of its own,
and fails if the server refuses. -/
def Executor.Serves {σ : Type} (executor : Executor σ) (server : Server) : Prop :=
  ∀ database command state,
    (executor.answer (.command database command) state).1.toOption = server.answer database command

namespace Server

variable (server : Server)

theorem serves_executor (version : ServerVersion) :
    (server.executor version).Serves server := by
  intro database command state
  cases found : server.answer database command with
  | some rows => simp [executor, found]; rfl
  | none => simp [executor, found]; rfl

theorem run_append (xs ys : List Document) (rows : List Document) :
    server.run (xs ++ ys) rows = (server.run xs rows).bind (server.run ys) :=
  List.foldlM_append

theorem run_singleton (stage : Document) (rows : List Document) :
    server.run [stage] rows = server.stage rows stage := by
  simp [run]

@[simp] theorem documents?_map (stages : List Document) :
    documents? (stages.map Value.document) = some stages := by
  induction stages with
  | nil => rfl
  | cons stage stages ih => simp [documents?, ih]

/-- A server finds for the command of a pipeline what the stages of the pipeline make of the rows of
the collection. -/
theorem answer_aggregateCommand (target : Namespace) (stages : List Stage) :
    server.answer target.database (aggregateCommand target stages) =
      server.run (stages.map Stage.toDocument) (server.rows target) := by
  have values : stages.map (fun stage => Value.document stage.toDocument) =
      (stages.map Stage.toDocument).map Value.document := by simp
  have collection : (aggregateCommand target stages).get? "aggregate" =
      some (.string target.collection) := rfl
  have pipeline : (aggregateCommand target stages).get? "pipeline" =
      some (.array ((stages.map Stage.toDocument).map Value.document)) := values ▸ rfl
  simp only [answer, collection, pipeline, documents?_map, Option.bind_some]

end Server

/-! ## A small server -/

def sampleUser (id : Int32) (name team : String) : Document :=
  ⟨[("_id", .int32 id), ("name", .string name), ("team", .string team)]⟩

/-- A number as the small server writes it, in the short form where it fits. -/
def sampleNumber (n : Nat) : Value :=
  if n ≤ 2147483647 then .int32 (.ofNat n) else .int64 (.ofNat n)

/-- A server for examples. It knows the users of one database, finds them by the text of one field,
and understands the projections that hide identifiers and show named fields, and both ways of
counting. -/
def sampleServer : Server where
  rows target :=
    if target = ⟨"app", "users"⟩ then
      [sampleUser 1 "ada" "red", sampleUser 2 "bob" "blue", sampleUser 3 "cyd" "red",
        sampleUser 4 "dee" "red"]
    else []
  filter condition rows :=
    match condition.entries with
    | [(field, .string text)] =>
      some <| rows.filter fun row =>
        match row.get? field with
        | some (.string found) => found = text
        | _ => false
    | _ => none
  group document rows :=
    match document.entries with
    | [("_id", .null), (label, .document ⟨[("$sum", .int32 n)]⟩)] =>
      if n ≠ 1 then none
      else if rows.isEmpty then some []
      else some [⟨[("_id", .null), (label, sampleNumber rows.length)]⟩]
    | _ => none
  sort _ _ := none
  project projection :=
    match projection.entries with
    | ("_id", .int32 n) :: marks =>
      if n ≠ 0 then none
      else some fun row => ⟨row.entries.filter fun entry => entry.1 ∈ marks.map Prod.fst⟩
    | _ => none
  count label rows :=
    if rows.isEmpty then some [] else some [.singleton label (sampleNumber rows.length)]

end DocQuery
