/-!
# What can go wrong with a statement

Structural flaws of a statement are noticed before anything is sent, and each has a cause of its
own. That nothing was found is never a fault.
-/

namespace DocQuery

/-- Why a statement was not executed, or a setting not accepted. -/
inductive Fault where
  /-- An insert without fields. -/
  | emptyDocument
  /-- An update without operators. -/
  | emptyUpdate
  /-- A write of the named kind that would apply to the whole collection. -/
  | missingCondition (operation : String)
  /-- The namespace names no database. -/
  | missingDatabase (namespaceText : String)
  /-- The namespace names a database and no collection. -/
  | missingCollection (namespaceText : String)
  /-- An argument that no statement can be made of. -/
  | invalidValue (reason : String)
  /-- A text that names no identifier. -/
  | invalidIdentifier (reason : String)
  | config (reason : String)
  /-- What executes the requests has failed. -/
  | executor (reason : String)
  | serialization (reason : String)
deriving DecidableEq, Repr

namespace Fault

def message : Fault → String
  | emptyDocument => "no data to insert"
  | emptyUpdate => "no data to update"
  | missingCondition operation => "missing " ++ operation ++ " condition"
  | missingDatabase namespaceText => "undefined database for namespace '" ++ namespaceText ++ "'"
  | missingCollection namespaceText =>
    "undefined collection for namespace '" ++ namespaceText ++ "'"
  | invalidValue reason => "invalid value: " ++ reason
  | invalidIdentifier reason => "invalid identifier: " ++ reason
  | config reason => "configuration error: " ++ reason
  | executor reason => "executor error: " ++ reason
  | serialization reason => "serialization error: " ++ reason

end Fault

end DocQuery
