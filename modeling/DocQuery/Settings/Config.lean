import DocQuery.ServerVersion
import DocQuery.Settings.LogSwitches
import DocQuery.Settings.WriteConcern

/-!
# Configuration

What all sessions of a connection have in common. A configuration can be written down freely; it is
checked when it is built from a draft, and again when a connection is opened with it.
-/

namespace DocQuery

/-- The settings that the sessions of a connection share. -/
structure Config where
  /-- The database of collections whose names do not say which. -/
  database : String := ""
  /-- What the names of such collections begin with. -/
  collectionPrefix : String := ""
  /-- The name of the field that identifies documents. -/
  primaryKey : String := "_id"
  /-- The rows of a page where no limit is set. -/
  pageSize : UInt64 := 20
  /-- Whether the last statement is kept as text. -/
  debug : Bool := false
  /-- The version of the server, if it need not be asked. -/
  serverVersion : Option ServerVersion := none
  /-- The write concern of all writes. -/
  writeConcern : Option WriteConcern := none
deriving DecidableEq, Repr

namespace Config

/-- The configuration where nothing is set. The environment decides about debugging. -/
def ofEnvironment (env : Environment) : Config where
  debug := env.wantsDebug

/-- What makes a configuration unusable. -/
inductive Flaw where
  | blankPrimaryKey
  | emptyPage
  /-- The name of the database holds a dot, so that no namespace can be read back. -/
  | dottedDatabase (database : String)
deriving DecidableEq, Repr

def Flaw.message : Flaw → String
  | blankPrimaryKey => "primary key field name is empty"
  | emptyPage => "page size must be positive"
  | dottedDatabase database => "database name '" ++ database ++ "' contains '.'"

def flaw? (config : Config) : Option Flaw :=
  if Text.trimChars config.primaryKey.toList = [] then some .blankPrimaryKey
  else if config.pageSize = 0 then some .emptyPage
  else if '.' ∈ config.database.toList then some (.dottedDatabase config.database)
  else none

def check (config : Config) : Except Fault Config :=
  match config.flaw? with
  | some flaw => .error (.config flaw.message)
  | none => .ok config

/-- Settings of which any may be left open. -/
structure Draft where
  database : Option String := none
  collectionPrefix : Option String := none
  primaryKey : Option String := none
  pageSize : Option UInt64 := none
  debug : Option Bool := none
  serverVersion : Option ServerVersion := none
  writeConcern : Option WriteConcern := none
deriving DecidableEq, Repr

/-- A draft with defaults for what it leaves open. -/
def Draft.layOver (draft : Draft) (defaults : Config) : Config where
  database := draft.database.getD defaults.database
  collectionPrefix := draft.collectionPrefix.getD defaults.collectionPrefix
  primaryKey := draft.primaryKey.getD defaults.primaryKey
  pageSize := draft.pageSize.getD defaults.pageSize
  debug := draft.debug.getD defaults.debug
  serverVersion := draft.serverVersion <|> defaults.serverVersion
  writeConcern := draft.writeConcern <|> defaults.writeConcern

def Draft.build (draft : Draft) (env : Environment) : Except Fault Config :=
  (draft.layOver (.ofEnvironment env)).check

end Config

end DocQuery
