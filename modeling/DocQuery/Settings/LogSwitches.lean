import DocQuery.Text.Blank
import DocQuery.Text.Numeral

/-!
# Logging switches

Three variables of the environment decide about logging: a debug switch, an explicit level and an
output format. A value that is not understood counts as absent.
-/

namespace DocQuery

/-- The variables that decide about logging, as they are found. -/
structure Environment where
  debug : Option String := none
  level : Option String := none
  format : Option String := none
deriving DecidableEq, Repr

inductive LogLevel where
  | error
  | warn
  | info
  | debug
  | trace
deriving DecidableEq, Repr

inductive LogFormat where
  | json
  | pretty
  | compact
deriving DecidableEq, Repr

structure LogSwitches where
  debug : Bool
  /-- The level that was asked for by name or number. -/
  explicitLevel : Option LogLevel
  format : LogFormat
deriving DecidableEq, Repr

/-- The text with the capital letters of ASCII made small; other letters stay as they are. -/
def asciiLower (s : String) : String :=
  String.ofList (s.toList.map Char.toLower)

namespace LogLevel

def all : List LogLevel := [error, warn, info, debug, trace]

def name : LogLevel → String
  | error => "error"
  | warn => "warn"
  | info => "info"
  | debug => "debug"
  | trace => "trace"

/-- Reads a level: its name in letters of either case, or its place among the levels from one on. -/
def ofText? (s : String) : Option LogLevel :=
  match Text.Numeral.unsigned? all.length s.toList with
  | some 0 => none
  | some (place + 1) => all[place]?
  | none => all.find? fun level => level.name = asciiLower s

end LogLevel

namespace LogFormat

def name : LogFormat → String
  | json => "json"
  | pretty => "pretty"
  | compact => "compact"

/-- Reads a format. A name that is not known stands for the default. -/
def ofText (s : String) : LogFormat :=
  ([pretty, compact].find? fun format => format.name = asciiLower s).getD json

end LogFormat

def switchesOn (s : String) : Bool :=
  asciiLower (Text.trim s) ∈ ["true", "1", "yes"]

def Environment.wantsDebug (env : Environment) : Bool :=
  env.debug.any switchesOn

namespace LogSwitches

def ofEnvironment (env : Environment) : LogSwitches where
  debug := env.wantsDebug
  explicitLevel := env.level.bind fun level => LogLevel.ofText? (Text.trim level)
  format := (env.format.map LogFormat.ofText).getD .json

/-- The level from which on events are written. -/
def level (settings : LogSwitches) : LogLevel :=
  settings.explicitLevel.getD (if settings.debug then .debug else .warn)

/-- Whether logging was asked for at all. -/
def isRequested (settings : LogSwitches) : Bool :=
  settings.debug || settings.explicitLevel.isSome

/-- The names under which events are reported. -/
def targets : List String := ["mongo_fluent", "fluent_query", "fluent_mongodb"]

/-- The filter that lets through the events of this library from the level on. -/
def directive (settings : LogSwitches) : String :=
  ",".intercalate (targets.map fun target => target ++ "=" ++ settings.level.name)

end LogSwitches

end DocQuery
