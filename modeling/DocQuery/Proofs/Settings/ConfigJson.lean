import DocQuery.Proofs.Json.Record
import DocQuery.Settings.ConfigJson

/-!
# Configurations that are read back

A configuration is read back from the text that it is written as, and so are the records inside it:
no value of any field is lost, none is confused with another one, and an option that is open stays
open, whatever the defaults of the reader are. In particular a span of time comes back whole,
because its nanoseconds make up no second.

For each record it is said first what becomes of an object whose fields can be read, however that
object came about.
-/

namespace DocQuery

namespace Duration

/-- Nanoseconds of a span do not carry. -/
theorem carry?_eq_some (d : Duration) : carry? d.secs d.nanos = some d := by
  obtain ⟨secs, nanos, small⟩ := d
  have none : nanos.toNat / 1000000000 = 0 := Nat.div_eq_of_lt small
  have all : nanos.toNat % 1000000000 = nanos.toNat := Nat.mod_eq_of_lt small
  rw [carry?, if_pos]
  · simp [none, all]
  · rw [none]
    exact secs.toNat_lt

theorem ofJson?_of_fields {json first second : Json} {secs : UInt64} {nanos : UInt32}
    (known : json.hasOnly fieldNames = true)
    (fields : json.fields? fieldNames = some [some first, some second])
    (whole : first.uint64? = some secs) (rest : second.uint32? = some nanos) :
    ofJson? json = carry? secs nanos := by
  have welcome : (guard (json.hasOnly fieldNames = true) : Option Unit) = some () := if_pos known
  rw [ofJson?, welcome, fields]
  simp [whole, rest]

theorem toJson_eq_record (d : Duration) :
    d.toJson = Json.record fieldNames [.int d.secs.toNat, .int d.nanos.toNat] := rfl

theorem ofJson?_toJson (d : Duration) : ofJson? d.toJson = some d := by
  rw [toJson_eq_record, ofJson?_of_fields (Json.hasOnly_record _ _)
    (Json.fields?_record (by decide) rfl) (Json.uint64?_toNat d.secs)
    (Json.uint32?_toNat d.nanos), carry?_eq_some]

theorem legible_toJson (d : Duration) : d.toJson.Legible := by
  rw [toJson_eq_record]
  apply Json.Legible.record
  simp [Json.Legible.int]

end Duration

namespace ServerVersion

theorem ofJson?_of_fields {json first second : Json} {version : ServerVersion}
    (fields : json.fields? fieldNames = some [some first, some second])
    (major : first.uint32? = some version.major) (minor : second.uint32? = some version.minor) :
    ofJson? json = some version := by
  simp [ofJson?, fields, major, minor]

theorem toJson_eq_record (version : ServerVersion) :
    version.toJson =
      Json.record fieldNames [.int version.major.toNat, .int version.minor.toNat] := rfl

theorem ofJson?_toJson (version : ServerVersion) : ofJson? version.toJson = some version := by
  rw [toJson_eq_record]
  exact ofJson?_of_fields (Json.fields?_record (by decide) rfl) (Json.uint32?_toNat _)
    (Json.uint32?_toNat _)

theorem legible_toJson (version : ServerVersion) : version.toJson.Legible := by
  rw [toJson_eq_record]
  apply Json.Legible.record
  simp [Json.Legible.int]

end ServerVersion

namespace Acknowledgment

theorem ofJson?_toJson (acknowledgment : Acknowledgment) :
    ofJson? acknowledgment.toJson = some acknowledgment := by
  cases acknowledgment with
  | nodes n =>
      have kind : ofJson? (toJson (.nodes n)) = (Json.int n.toNat).uint32?.map .nodes := rfl
      rw [kind, Json.uint32?_toNat]
      rfl
  | majority => rfl
  | tagged tag => rfl

theorem legible_toJson (acknowledgment : Acknowledgment) : acknowledgment.toJson.Legible := by
  cases acknowledgment with
  | nodes n => exact .record ["w"] (List.forall_mem_singleton.mpr (.int _))
  | majority => exact .text _
  | tagged tag => exact .record ["custom"] (List.forall_mem_singleton.mpr (.text tag))

end Acknowledgment

namespace WriteConcern

theorem ofJson?_of_fields {json first : Json} {second third : Option Json} {concern : WriteConcern}
    (fields : json.fields? fieldNames = some [some first, second, third])
    (acknowledgment : Acknowledgment.ofJson? first = some concern.acknowledgment)
    (timeout : Json.orDefault (Json.optional? Duration.ofJson?) none second = some concern.timeout)
    (journal : Json.orDefault (Json.optional? Json.bool?) none third = some concern.journal) :
    ofJson? json = some concern := by
  simp [ofJson?, fields, acknowledgment, timeout, journal]

theorem toJson_eq_record (concern : WriteConcern) :
    concern.toJson = Json.record fieldNames
      [concern.acknowledgment.toJson, Json.ofOption Duration.toJson concern.timeout,
        Json.ofOption Json.bool concern.journal] := rfl

theorem ofJson?_toJson (concern : WriteConcern) : ofJson? concern.toJson = some concern := by
  rw [toJson_eq_record]
  apply ofJson?_of_fields (Json.fields?_record (by decide) rfl)
    (Acknowledgment.ofJson?_toJson concern.acknowledgment)
  · exact Json.optional?_ofOption Duration.ofJson?_toJson (fun _ => nofun) concern.timeout
  · exact Json.optional?_ofOption Json.bool?_bool (fun _ => nofun)
      concern.journal

theorem legible_toJson (concern : WriteConcern) : concern.toJson.Legible := by
  rw [toJson_eq_record]
  apply Json.Legible.record
  simp [Acknowledgment.legible_toJson, Json.Legible.ofOption, Duration.legible_toJson,
    Json.Legible.bool]

end WriteConcern

namespace Config

theorem ofJson?_of_fields {defaults config : Config} {json : Json}
    {first second third fourth fifth sixth seventh : Option Json}
    (fields : json.fields? fieldNames = some [first, second, third, fourth, fifth, sixth, seventh])
    (database : Json.orDefault Json.text? defaults.database first = some config.database)
    (collectionPrefix :
      Json.orDefault Json.text? defaults.collectionPrefix second = some config.collectionPrefix)
    (primaryKey : Json.orDefault Json.text? defaults.primaryKey third = some config.primaryKey)
    (pageSize : Json.orDefault Json.uint64? defaults.pageSize fourth = some config.pageSize)
    (debug : Json.orDefault Json.bool? defaults.debug fifth = some config.debug)
    (serverVersion : Json.orDefault (Json.optional? ServerVersion.ofJson?) defaults.serverVersion
      sixth = some config.serverVersion)
    (writeConcern : Json.orDefault (Json.optional? WriteConcern.ofJson?) defaults.writeConcern
      seventh = some config.writeConcern) :
    ofJson? defaults json = some config := by
  simp [ofJson?, fields, database, collectionPrefix, primaryKey, pageSize, debug, serverVersion,
    writeConcern]

/-- The values that the fields of a configuration are written as, in the order of the names. -/
def values (config : Config) : List Json :=
  [.text config.database, .text config.collectionPrefix, .text config.primaryKey,
    .int config.pageSize.toNat, .bool config.debug,
    Json.ofOption ServerVersion.toJson config.serverVersion,
    Json.ofOption WriteConcern.toJson config.writeConcern]

theorem toJson_eq_record (config : Config) : config.toJson = Json.record fieldNames config.values :=
  rfl

theorem ofJson?_toJson (defaults config : Config) :
    ofJson? defaults config.toJson = some config := by
  rw [toJson_eq_record]
  apply ofJson?_of_fields (Json.fields?_record (by decide) rfl)
  · exact Json.text?_text config.database
  · exact Json.text?_text config.collectionPrefix
  · exact Json.text?_text config.primaryKey
  · rw [Json.orDefault_some, Json.uint64?_toNat]
  · exact Json.bool?_bool config.debug
  · exact Json.optional?_ofOption ServerVersion.ofJson?_toJson (fun _ => nofun) config.serverVersion
  · exact Json.optional?_ofOption WriteConcern.ofJson?_toJson (fun _ => nofun) config.writeConcern

theorem legible_toJson (config : Config) : config.toJson.Legible := by
  rw [toJson_eq_record]
  apply Json.Legible.record
  simp only [values, List.forall_mem_cons]
  exact ⟨.text _, .text _, .text _, .int _, .bool _, .ofOption ServerVersion.legible_toJson _,
    .ofOption WriteConcern.legible_toJson _, List.forall_mem_nil _⟩

/-- Every configuration is read back from its text, under any defaults, and so is every write
concern. -/
theorem texts_read_back :
    (∀ defaults config : Config, parse? defaults config.toJsonText = some config) ∧
      ∀ concern : WriteConcern, WriteConcern.parse? concern.toJson.compact = some concern := by
  constructor
  · intro defaults config
    rw [parse?, toJsonText, Json.parse_compact config.legible_toJson, Option.bind_eq_bind,
      Option.bind_some, ofJson?_toJson]
  · intro concern
    rw [WriteConcern.parse?, Json.parse_compact concern.legible_toJson, Option.bind_eq_bind,
      Option.bind_some, WriteConcern.ofJson?_toJson]

end Config

end DocQuery
