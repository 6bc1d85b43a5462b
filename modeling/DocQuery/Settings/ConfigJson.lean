import DocQuery.Json.Parser
import DocQuery.Json.Printer
import DocQuery.Json.Record
import DocQuery.Settings.Config

/-!
# Configuration as JSON

A configuration is a record with a default for every field, so that any of them may be left open.
Write concerns, versions and spans of time are records inside it; those have required fields, and a
span of time is the only one that refuses fields it does not know.
-/

namespace DocQuery

namespace Duration

def fieldNames : List String := ["secs", "nanos"]

/-- Reads a span of time, of which both fields are required and no others welcome. -/
def ofJson? (json : Json) : Option Duration := do
  guard (json.hasOnly fieldNames)
  match ← json.fields? fieldNames with
  | [some secs, some nanos] => carry? (← secs.uint64?) (← nanos.uint32?)
  | _ => none

def toJson (d : Duration) : Json :=
  .object [(some "secs", .int d.secs.toNat), (some "nanos", .int d.nanos.toNat)]

end Duration

namespace ServerVersion

def fieldNames : List String := ["major", "minor"]

/-- Reads a version, of which both numbers are required. -/
def ofJson? (json : Json) : Option ServerVersion := do
  match ← json.fields? fieldNames with
  | [some major, some minor] => return ⟨← major.uint32?, ← minor.uint32?⟩
  | _ => none

def toJson (version : ServerVersion) : Json :=
  .object [(some "major", .int version.major.toNat), (some "minor", .int version.minor.toNat)]

end ServerVersion

namespace Acknowledgment

/-- Reads who has to confirm a write: an object whose only name says which kind it is, or the name
alone where nothing else is to be said. -/
def ofJson? : Json → Option Acknowledgment
  | .string (some name) => if name = "majority" then some .majority else none
  | .object [(some name, json)] =>
    if name = "w" then json.uint32?.map .nodes
    else if name = "custom" then json.text?.map .tagged
    else if name = "majority" then
      match json with
      | .null => some .majority
      | _ => none
    else none
  | _ => none

def toJson : Acknowledgment → Json
  | .nodes n => .object [(some "w", .int n.toNat)]
  | .majority => .text "majority"
  | .tagged tag => .object [(some "custom", .text tag)]

end Acknowledgment

namespace WriteConcern

def fieldNames : List String := ["w", "wtimeout", "journal"]

/-- Reads a write concern, of which only the first field is required. -/
def ofJson? (json : Json) : Option WriteConcern := do
  match ← json.fields? fieldNames with
  | [some acknowledgment, timeout, journal] =>
    return {
      acknowledgment := ← Acknowledgment.ofJson? acknowledgment
      timeout := ← Json.orDefault (Json.optional? Duration.ofJson?) none timeout
      journal := ← Json.orDefault (Json.optional? Json.bool?) none journal }
  | _ => none

def toJson (concern : WriteConcern) : Json :=
  .object
    [(some "w", concern.acknowledgment.toJson),
     (some "wtimeout", Json.ofOption Duration.toJson concern.timeout),
     (some "journal", Json.ofOption Json.bool concern.journal)]

def parse? (s : String) : Option WriteConcern := do
  ofJson? (← Json.parse s)

end WriteConcern

namespace Config

def fieldNames : List String :=
  ["database", "prefix", "pk", "page_size", "debug", "server_version", "write_concern"]

/-- Reads a configuration, of which every field has a default. It is not checked for flaws. -/
def ofJson? (defaults : Config) (json : Json) : Option Config := do
  match ← json.fields? fieldNames with
  | [database, collectionPrefix, primaryKey, pageSize, debug, serverVersion, writeConcern] =>
    return {
      database := ← Json.orDefault Json.text? defaults.database database
      collectionPrefix :=
        ← Json.orDefault Json.text? defaults.collectionPrefix collectionPrefix
      primaryKey := ← Json.orDefault Json.text? defaults.primaryKey primaryKey
      pageSize := ← Json.orDefault Json.uint64? defaults.pageSize pageSize
      debug := ← Json.orDefault Json.bool? defaults.debug debug
      serverVersion :=
        ← Json.orDefault (Json.optional? ServerVersion.ofJson?) defaults.serverVersion serverVersion
      writeConcern :=
        ← Json.orDefault (Json.optional? WriteConcern.ofJson?) defaults.writeConcern writeConcern }
  | _ => none

def toJson (config : Config) : Json :=
  .object
    [(some "database", .text config.database),
     (some "prefix", .text config.collectionPrefix),
     (some "pk", .text config.primaryKey),
     (some "page_size", .int config.pageSize.toNat),
     (some "debug", .bool config.debug),
     (some "server_version", Json.ofOption ServerVersion.toJson config.serverVersion),
     (some "write_concern", Json.ofOption WriteConcern.toJson config.writeConcern)]

def parse? (defaults : Config) (s : String) : Option Config := do
  ofJson? defaults (← Json.parse s)

def toJsonText (config : Config) : String :=
  config.toJson.compact

end Config

end DocQuery
