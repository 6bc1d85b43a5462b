import DocQuery.Document.ExtendedJson
import DocQuery.Json.Printer
import DocQuery.Namespace

/-!
# Statements as text

For diagnostics, a statement is shown the way it would be typed into the server's shell: a call on
the collection whose arguments are JSON. A tracer keeps the text of the last statement, if it is
switched on.
-/

namespace DocQuery

/-- A statement as it was executed. -/
inductive Statement where
  | insert (documents : List Document)
  | remove (filter : Document) (justOne : Bool)
  | update (filter change : Document) (multi upsert : Bool)
  | command (document : Document)

namespace Statement

def verb : Statement → String
  | insert _ => "insert"
  | remove _ _ => "remove"
  | update _ _ _ _ => "update"
  | command _ => "runCommand"

def argument (document : Document) : Json :=
  (Value.document document).toJson

/-- The arguments of the call. One document is inserted as such, and several as an array. -/
def arguments : Statement → List Json
  | insert [document] => [argument document]
  | insert documents => [.array (documents.map argument)]
  | remove filter justOne => [argument filter, .object [(some "justOne", .bool justOne)]]
  | update filter change multi upsert =>
    [argument filter, argument change,
     .object [(some "multi", .bool multi), (some "upsert", .bool upsert)]]
  | command document => [argument document]

/-- The text of a statement on a collection. -/
def text (statement : Statement) (target : Namespace) : String :=
  "db." ++ target.collection ++ "." ++ statement.verb ++ "(" ++
    ",".intercalate (statement.arguments.map Json.compact) ++ ");"

end Statement

/-- Keeps the text of the last statement. -/
structure Tracer where
  enabled : Bool
  last : Option String := none
deriving DecidableEq, Repr

namespace Tracer

/-- Keeps the text of a statement in the place of the one before, or nothing if it is switched
off. -/
def record (tracer : Tracer) (target : Namespace) (statement : Statement) : Tracer :=
  if tracer.enabled then { tracer with last := some (statement.text target) } else tracer

theorem enabled_record (tracer : Tracer) (target : Namespace) (statement : Statement) :
    (tracer.record target statement).enabled = tracer.enabled := by
  unfold record
  split <;> rfl

end Tracer

end DocQuery
