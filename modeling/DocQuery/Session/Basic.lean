import DocQuery.Executor.Basic
import DocQuery.Key.Canonical
import DocQuery.Settings.Config
import DocQuery.Statement.Pipeline
import DocQuery.Statement.Selection
import DocQuery.Statement.Write

/-!
# Connections and sessions

A connection joins an executor, a codec for identifiers and a configuration without flaws. What
changes while it is used is kept apart from it and shared by all its sessions: the state of the
executor, the source of new identifiers, and the version of the server once it is known.

A session works on one collection. It holds the options of the statement to come, the text of the
last statement, and the identifiers of the last insert.
-/

namespace DocQuery

/-- What all sessions have in common and never changes. -/
structure Connection (σ τ : Type) where
  executor : Executor σ
  codec : Codec τ
  config : Config
  flawless : config.flaw? = none

/-- What all sessions have in common and changes with use. -/
structure Shared (σ τ : Type) where
  executor : σ
  /-- Where new identifiers come from. -/
  source : τ
  /-- The version that the executor has given, once it has. -/
  version : Option ServerVersion := none

/-- Identifiers of inserted documents, as they were handed out. -/
inductive InsertedIds where
  | one (id : Value)
  | many (ids : List Value)

namespace InsertedIds

def toList : InsertedIds → List Value
  | one id => [id]
  | many ids => ids

def toTexts {τ : Type} (ids : InsertedIds) (codec : Codec τ) : List String :=
  ids.toList.map codec.toText

end InsertedIds

structure Session where
  target : Namespace
  options : Options := default
  tracer : Tracer
  lastInsert : Option InsertedIds := none

namespace Session

/-- The text of the last statement, if statements are kept. -/
def lastStatement (session : Session) : Option String :=
  session.tracer.last

def edit (session : Session) (edit : Options.Edit) : Session :=
  { session with options := session.options.edit edit }

@[simp] theorem options_edit (session : Session) (edit : Options.Edit) :
    (session.edit edit).options = session.options.edit edit := rfl

end Session

namespace Connection

variable {σ τ : Type}

/-- Opens a connection, unless its configuration has a flaw. -/
def establish (executor : Executor σ) (codec : Codec τ) (config : Config) :
    Except Fault (Connection σ τ) :=
  match h : config.flaw? with
  | some flaw => .error (.config flaw.message)
  | none => .ok ⟨executor, codec, config, h⟩

def primaryKey (connection : Connection σ τ) : PrimaryKey τ :=
  ⟨connection.config.primaryKey, connection.codec⟩

def collection (connection : Connection σ τ) (name : String) : Session where
  target := .ofName name connection.config.database connection.config.collectionPrefix
  tracer := { enabled := connection.config.debug }

def send (connection : Connection σ τ) (request : Request) :
    StateM (Shared σ τ) (Except Fault request.Reply) := fun shared =>
  let (reply, executor) := connection.executor.answer request shared.executor
  (reply, { shared with executor })

/-- The version of the server: the configured one, or the one that the executor has given. It is
asked for until it has been given once. -/
def serverVersion (connection : Connection σ τ) :
    StateM (Shared σ τ) (Except Fault ServerVersion) := fun shared =>
  match connection.config.serverVersion <|> shared.version with
  | some version => (.ok version, shared)
  | none =>
    match connection.send .version shared with
    | (.error fault, shared) => (.error fault, shared)
    | (.ok version, shared) => (.ok version, { shared with version := some version })

/-- Runs a step that needs new identifiers only. -/
def onSource {α : Type} (step : StateM τ α) : StateM (Shared σ τ) α := fun shared =>
  let (result, source) := step shared.source
  (result, { shared with source })

end Connection

/-- A change of the options of a session, as its caller writes it. -/
inductive Setting where
  | filter (raw : Document)
  | field (selection : Selection)
  | sort (document : Document)
  | group (document : Document)
  | limit (n : UInt64)
  | skip (n : UInt64)
  | upsert (b : Bool)
  | idsAsText (b : Bool)
  | remove (key : OptionKey)
  | reset

/-- The change that a setting makes to the options: filters are brought into canonical form, and
selections become projections. -/
def Setting.toEdit {τ : Type} (key : PrimaryKey τ) : Setting → StateM τ Options.Edit
  | filter raw => .filter <$> key.canonicalFilter raw
  | field selection => pure (.projection (selection.projection key.field))
  | sort document => pure (.sort document)
  | group document => pure (.group document)
  | limit n => pure (.limit n)
  | skip n => pure (.skip n)
  | upsert b => pure (.upsert b)
  | idsAsText b => pure (.idsAsText b)
  | remove key => pure (.remove key)
  | reset => pure .reset

def Session.set {τ : Type} (session : Session) (key : PrimaryKey τ) (setting : Setting) :
    StateM τ Session :=
  session.edit <$> setting.toEdit key

end DocQuery
