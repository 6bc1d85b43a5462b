import DocQuery.Client.Fault
import DocQuery.Client.Settings
import DocQuery.Text.Numeral

/-!
# Configuration of a client

A client is configured by a connection string and by settings of its own, which are laid over those
of the string. A configuration can be built step by step; it is then checked for a scheme that is
known, and for pool sizes that do not contradict each other.

Reading connection strings is the driver's affair, and so is making clients of options. Both are
handed in.
-/

namespace DocQuery

/-- A connection string, and settings that are laid over it. -/
structure ClientConfig where
  uri : String
  settings : ClientSettings ReadPreference
deriving DecidableEq, Repr

namespace ClientConfig

def defaultUri : String := "mongodb://localhost:27017"

def defaultSettings : ClientSettings ReadPreference where
  appName := some "mongo-fluent"
  maxPoolSize := some 10
  maxIdleTime := some (.ofSecs 300)
  connectTimeout := some (.ofSecs 10)
  serverSelectionTimeout := some (.ofSecs 30)
  readPreference := some .primary
  retryWrites := some true
  retryReads := some true

instance : Inhabited ClientConfig := ⟨⟨defaultUri, defaultSettings⟩⟩

def ofUri (uri : String) : ClientConfig := ⟨uri, defaultSettings⟩

/-- A step of building a configuration. -/
inductive Edit where
  | uri (s : String)
  | appName (s : String)
  | minPoolSize (n : UInt32)
  | maxPoolSize (n : UInt32)
  | maxIdleTime (d : Duration)
  | connectTimeout (d : Duration)
  | serverSelectionTimeout (d : Duration)
  | readPreference (preference : ReadPreference)
  | retryWrites (b : Bool)
  | retryReads (b : Bool)
  | directConnection (b : Bool)
deriving DecidableEq, Repr

def Edit.onSettings (settings : ClientSettings ReadPreference) :
    Edit → ClientSettings ReadPreference
  | .uri _ => settings
  | .appName s => { settings with appName := some s }
  | .minPoolSize n => { settings with minPoolSize := some n }
  | .maxPoolSize n => { settings with maxPoolSize := some n }
  | .maxIdleTime d => { settings with maxIdleTime := some d }
  | .connectTimeout d => { settings with connectTimeout := some d }
  | .serverSelectionTimeout d => { settings with serverSelectionTimeout := some d }
  | .readPreference preference => { settings with readPreference := some preference }
  | .retryWrites b => { settings with retryWrites := some b }
  | .retryReads b => { settings with retryReads := some b }
  | .directConnection b => { settings with directConnection := some b }

def edit (config : ClientConfig) : Edit → ClientConfig
  | .uri s => { config with uri := s }
  | other => { config with settings := other.onSettings config.settings }

def schemes : List String := ["mongodb://", "mongodb+srv://"]

def hasKnownScheme (uri : String) : Bool :=
  schemes.any fun scheme => scheme.toList.isPrefixOf uri.toList

/-- Accepts a configuration whose scheme is known and whose pool sizes fit together. -/
def check (config : ClientConfig) : Except ClientFault ClientConfig :=
  if !hasKnownScheme config.uri then
    .error (.config ("unsupported URI scheme in '" ++ config.uri ++ "'"))
  else
    match config.settings.minPoolSize, config.settings.maxPoolSize with
    | some least, some most =>
      if most < least then
        .error (.config ("min pool size " ++ Text.Numeral.ofNat least.toNat ++
          " exceeds max pool size " ++ Text.Numeral.ofNat most.toNat))
      else .ok config
    | _, _ => .ok config

/-- Builds a configuration from the default one, step by step. -/
def build (edits : List Edit) : Except ClientFault ClientConfig :=
  (edits.foldl edit default).check

section Driver

variable {γ ρ κ : Type} [Inhabited γ]

/-- The options of a client, laid over those of the connection string. -/
def layOver (config : ClientConfig) (options : ClientOptions γ ρ) : ClientOptions γ ρ :=
  { options with settings := config.settings.toDriver.layOver options.settings }

/-- The options of a client, if the driver can read the connection string. -/
def clientOptions (read : String → Except String (ClientOptions γ ρ)) (config : ClientConfig) :
    Except ClientFault (ClientOptions γ ρ) :=
  match read config.uri with
  | .ok options => .ok (config.layOver options)
  | .error reason => .error (.config ("failed to parse URI: " ++ reason))

/-- Makes a client, whose configuration is kept. Nothing is sent for it. -/
def connect (read : String → Except String (ClientOptions γ ρ))
    (make : ClientOptions γ ρ → Except String κ) (config : ClientConfig) :
    Except ClientFault (κ × ClientConfig) := do
  let options ← config.clientOptions read
  match make options with
  | .ok client => return (client, config)
  | .error reason => .error (.connection ("failed to create client: " ++ reason))

end Driver

end ClientConfig

end DocQuery
