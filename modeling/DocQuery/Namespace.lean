/-!
# Namespaces

A collection is addressed by the name of its database and its own name, with a dot between them. The
name of a database holds no dot, so the first dot of the text is the one that separates.
-/

namespace DocQuery

/-- The full name of a collection. -/
structure Namespace where
  database : String
  collection : String
deriving DecidableEq, Repr

namespace Namespace

def text (target : Namespace) : String :=
  target.database ++ "." ++ target.collection

def hasDatabase (target : Namespace) : Bool :=
  !target.database.isEmpty

def hasCollection (target : Namespace) : Bool :=
  !target.collection.isEmpty

/-- The namespace that a name of a collection stands for. A name with a dot says which database it
means and is taken as it is; any other name gets the given first part and belongs to the given
database. -/
def ofName (name database collectionPrefix : String) : Namespace :=
  if '.' ∈ name.toList then
    ⟨String.ofList (name.toList.takeWhile (· ≠ '.')),
     String.ofList ((name.toList.dropWhile (· ≠ '.')).drop 1)⟩
  else ⟨database, collectionPrefix ++ name⟩

end Namespace

end DocQuery
