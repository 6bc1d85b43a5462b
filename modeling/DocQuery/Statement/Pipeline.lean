import DocQuery.Namespace
import DocQuery.ServerVersion
import DocQuery.Statement.Options

/-!
# Pipelines

A read is a pipeline of stages, each of which works on the rows of the one before. Options become
stages in one fixed order, whatever order they were given in: limiting rows before they are matched,
for instance, would give another result.
-/

namespace DocQuery

inductive Stage where
  | filter (document : Document)
  | group (document : Document)
  | sort (document : Document)
  | skip (n : UInt64)
  | limit (n : UInt64)
  | project (document : Document)
  /-- The number of rows, under a label. -/
  | count (label : String)

namespace Stage

def name : Stage → String
  | filter _ => "$match"
  | group _ => "$group"
  | sort _ => "$sort"
  | skip _ => "$skip"
  | limit _ => "$limit"
  | project _ => "$project"
  | count _ => "$count"

/-- A number of rows as the server reads it. A signed word holds more rows than there are. -/
def rowCount (n : UInt64) : Value :=
  .int64 (.ofNat (min n.toNat (UInt64.size / 2 - 1)))

/-- What the operator of a stage is applied to. -/
def payload : Stage → Value
  | filter document => .document document
  | group document => .document document
  | sort document => .document document
  | skip n => rowCount n
  | limit n => rowCount n
  | project document => .document document
  | count label => .string label

/-- A stage as the server reads it. -/
def toDocument (stage : Stage) : Document :=
  .singleton stage.name stage.payload

/-- The stage that counts rows. Servers that have no such stage are asked to put all rows into one
group and to add up ones under the label. -/
def counting (label : String) (version : ServerVersion) : Stage :=
  if version.hasCountStage then .count label
  else .group <|
    (Fields.singleton "_id" .null).insert label (.document (.singleton "$sum" (.int32 1)))

/-- The stage that an option gives rise to, if it is set. -/
def ofOption {α : Type} (make : α → Stage) (option : Option α) : List Stage :=
  (option.map make).toList

@[simp] theorem ofOption_none {α : Type} (make : α → Stage) : ofOption make none = [] := rfl

@[simp] theorem ofOption_some {α : Type} (make : α → Stage) (a : α) :
    ofOption make (some a) = [make a] := rfl

end Stage

namespace Options

/-- A number of rows that makes a difference. -/
def positive (n : Option UInt64) : Option UInt64 :=
  n.filter (· ≠ 0)

theorem positive_zero : positive (some 0) = none := rfl

theorem positive_some {n : UInt64} (nonzero : n ≠ 0) : positive (some n) = some n := by
  simp [positive, nonzero]

/-- The pipeline of options, for a server of the given version. -/
def pipeline (options : Options) (version : ServerVersion) : List Stage :=
  Stage.ofOption .filter (nonEmpty options.filter) ++
    Stage.ofOption .group options.group ++
    Stage.ofOption .sort options.sort ++
    Stage.ofOption .skip (positive options.skip) ++
    Stage.ofOption .limit (positive options.limit) ++
    Stage.ofOption .project options.projection ++
    Stage.ofOption (Stage.counting · version) options.countLabel

end Options

/-- The command that runs a pipeline on a collection. -/
def aggregateCommand (target : Namespace) (stages : List Stage) : Document :=
  .ofList
    [("aggregate", .string target.collection),
     ("pipeline", .array (stages.map fun stage => .document stage.toDocument)),
     ("cursor", .document ∅)]

end DocQuery
