import DocQuery.Document.Value

/-!
# Options of a statement

A statement is put together from options that may be given in any order and any number of times.
The last word on each option counts. An empty projection, sort order or grouping says that there is
none.
-/

namespace DocQuery

/-- The options of one statement. -/
structure Options where
  /-- Which documents the statement is about, in canonical form. -/
  filter : Document := ∅
  projection : Option Document := none
  sort : Option Document := none
  group : Option Document := none
  limit : Option UInt64 := none
  skip : Option UInt64 := none
  /-- Whether an update that matches nothing inserts. -/
  upsert : Option Bool := none
  /-- The name under which rows are counted. -/
  countLabel : Option String := none
  /-- Whether identifiers are handed out as texts. -/
  idsAsText : Bool := false

inductive OptionKey where
  | filter
  | projection
  | sort
  | group
  | limit
  | skip
  | upsert
  | count
  | idsAsText
deriving DecidableEq, Repr

namespace OptionKey

def all : List OptionKey :=
  [filter, projection, sort, group, limit, skip, upsert, count, idsAsText]

def name : OptionKey → String
  | filter => "where"
  | projection => "field"
  | sort => "sort"
  | group => "group"
  | limit => "limit"
  | skip => "skip"
  | upsert => "upsert"
  | count => "count"
  | idsAsText => "pk_convert_string"

theorem mem_all (key : OptionKey) : key ∈ all := by
  cases key <;> decide

end OptionKey

namespace Options

instance : Inhabited Options := ⟨{}⟩

/-- A document that says something. -/
def nonEmpty (document : Document) : Option Document :=
  if document.isEmpty then none else some document

def contains (options : Options) : OptionKey → Bool
  | .filter => !options.filter.isEmpty
  | .projection => options.projection.isSome
  | .sort => options.sort.isSome
  | .group => options.group.isSome
  | .limit => options.limit.isSome
  | .skip => options.skip.isSome
  | .upsert => options.upsert.isSome
  | .count => options.countLabel.isSome
  | .idsAsText => options.idsAsText

def remove (options : Options) : OptionKey → Options
  | .filter => { options with filter := ∅ }
  | .projection => { options with projection := none }
  | .sort => { options with sort := none }
  | .group => { options with group := none }
  | .limit => { options with limit := none }
  | .skip => { options with skip := none }
  | .upsert => { options with upsert := none }
  | .count => { options with countLabel := none }
  | .idsAsText => { options with idsAsText := false }

def isDefault (options : Options) : Bool :=
  OptionKey.all.all fun key => !options.contains key

inductive Edit where
  | filter (document : Document)
  | projection (document : Document)
  | sort (document : Document)
  | group (document : Document)
  | limit (n : UInt64)
  | skip (n : UInt64)
  | upsert (b : Bool)
  | count (label : String)
  | idsAsText (b : Bool)
  | remove (key : OptionKey)
  | reset

def edit (options : Options) : Edit → Options
  | .filter document => { options with filter := document }
  | .projection document => { options with projection := nonEmpty document }
  | .sort document => { options with sort := nonEmpty document }
  | .group document => { options with group := nonEmpty document }
  | .limit n => { options with limit := some n }
  | .skip n => { options with skip := some n }
  | .upsert b => { options with upsert := some b }
  | .count label => { options with countLabel := some label }
  | .idsAsText b => { options with idsAsText := b }
  | .remove key => options.remove key
  | .reset => {}

def editAll (options : Options) (edits : List Edit) : Options :=
  edits.foldl edit options

@[simp] theorem editAll_nil (options : Options) : options.editAll [] = options := rfl

@[simp] theorem editAll_cons (options : Options) (e : Edit) (edits : List Edit) :
    options.editAll (e :: edits) = (options.edit e).editAll edits := rfl

@[simp] theorem edit_reset (options : Options) : options.edit .reset = default := rfl

@[simp] theorem contains_default (key : OptionKey) : (default : Options).contains key = false := by
  cases key <;> rfl

@[simp] theorem contains_remove_self (options : Options) (key : OptionKey) :
    (options.remove key).contains key = false := by
  cases key <;> rfl

end Options

end DocQuery
