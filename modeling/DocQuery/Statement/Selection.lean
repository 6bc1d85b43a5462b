import DocQuery.Document.Value
import DocQuery.Text.Blank

/-!
# Selections of fields

The fields that a read returns are selected by a list of names, or by a document that says for each
name how it is shown and may also compute new fields. The primary key is hidden unless it is
selected.
-/

namespace DocQuery

inductive Selection where
  | names (names : List String)
  | document (shown : Document)

namespace Selection

def shown : Value := .int32 1

def hidden : Value := .int32 0

/-- The pieces between commas, without the blanks around them, as far as anything remains. -/
def namesIn (list : String) : List String :=
  (((list.toList.splitOn ',').map Text.trimChars).filter (· ≠ [])).map String.ofList

/-- The names in several lists, each of which may hold several names between commas. -/
def ofLists (lists : List String) : Selection :=
  .names (lists.flatMap namesIn)

/-- The names in a list with commas. -/
def ofList (list : String) : Selection :=
  ofLists [list]

def toNames : Selection → List String
  | names ns => ns
  | document fields => fields.names

def isEmpty (selection : Selection) : Bool :=
  selection.toNames.isEmpty

def entries : Selection → List (String × Value)
  | names ns => ns.map (·, shown)
  | document fields => fields.entries

/-- The projection that a selection asks for: the primary key, hidden unless it is selected, and
then the selected fields. Where nothing is selected, nothing is asked for. -/
def projection (selection : Selection) (primaryKey : String) : Document :=
  if selection.isEmpty then ∅
  else (Fields.singleton primaryKey hidden).insertAll selection.entries

@[simp] theorem ofLists_singleton (list : String) : ofLists [list] = .names (namesIn list) := by
  simp [ofLists]

end Selection

end DocQuery
