import DocQuery.Proofs.Json.Accepted
import DocQuery.Proofs.Settings.ConfigJson

/-!
# Configurations of which some fields are given

A configuration may be written down in part. What is given is read field by field and the rest is
left to the defaults, whichever fields are given, in whatever order they stand, and whatever stands
between them under other names. The fields may also be given as an array without names, as far as
one gets.
-/

namespace DocQuery.Config

def members (config : Config) : List (String × Json) :=
  fieldNames.zip config.values

theorem nodup_fieldNames : fieldNames.Nodup := by decide

/-- The fields of a configuration that have the given names, over those of another one. -/
def partOver (config : Config) (names : List String) (defaults : Config) : Config where
  database := if "database" ∈ names then config.database else defaults.database
  collectionPrefix :=
    if "prefix" ∈ names then config.collectionPrefix else defaults.collectionPrefix
  primaryKey := if "pk" ∈ names then config.primaryKey else defaults.primaryKey
  pageSize := if "page_size" ∈ names then config.pageSize else defaults.pageSize
  debug := if "debug" ∈ names then config.debug else defaults.debug
  serverVersion := if "server_version" ∈ names then config.serverVersion else defaults.serverVersion
  writeConcern := if "write_concern" ∈ names then config.writeConcern else defaults.writeConcern

/-- A field that is given is read, and one that is not takes its default. -/
theorem orDefault_ite {α : Type} {read : Json → Option α} {json : Json} {a : α}
    (reads : read json = some a) (default : α) (p : Prop) [Decidable p] :
    Json.orDefault read default (if p then some json else none) =
      some (if p then a else default) := by
  split
  · exact reads
  · rfl

/-- A configuration of which some fields are given has these over the defaults. -/
theorem ofJson?_of_given {config : Config} {names : List String} {json : Json}
    (fields : json.fields? fieldNames = some (Json.given fieldNames config.values names))
    (defaults : Config) : ofJson? defaults json = some (config.partOver names defaults) := by
  apply ofJson?_of_fields fields
  · exact orDefault_ite (Json.text?_text config.database) ..
  · exact orDefault_ite (Json.text?_text config.collectionPrefix) ..
  · exact orDefault_ite (Json.text?_text config.primaryKey) ..
  · exact orDefault_ite (Json.uint64?_toNat config.pageSize) ..
  · exact orDefault_ite (Json.bool?_bool config.debug) ..
  · exact orDefault_ite (Json.optional?_ofOption ServerVersion.ofJson?_toJson (fun _ => nofun)
      config.serverVersion) ..
  · exact orDefault_ite (Json.optional?_ofOption WriteConcern.ofJson?_toJson (fun _ => nofun)
      config.writeConcern) ..

theorem parse?_of_spells {s : String} {json : Json} (spelled : Json.Spells s.toList json)
    (defaults : Config) : parse? defaults s = ofJson? defaults json := by
  rw [parse?, Json.parse_of_spells spelled]
  rfl

theorem ofJson?_of_unread {json : Json} (unread : json.fields? fieldNames = none)
    (defaults : Config) : ofJson? defaults json = none := by
  rw [ofJson?, unread]
  rfl

/-- Parts of configurations are read back from texts, over any defaults and however the texts are
spelled. A text may say an object that has any fields of a configuration in any order, and anything
else under other names; or it may say an array of the first fields. No text is read that gives a
field twice or has more items than there are fields. -/
theorem parts_read_back (defaults config : Config) :
    (∀ (s : String) names members,
      (members.filter (·.1 ∈ fieldNames)).Perm (config.members.filter (·.1 ∈ names)) →
      Json.Spells s.toList (Json.named members) →
        parse? defaults s = some (config.partOver names defaults)) ∧
    (∀ (s : String) members name, name ∈ fieldNames → 2 ≤ members.countP (·.1 = some name) →
      Json.Spells s.toList (.object members) → parse? defaults s = none) ∧
    (∀ (s : String) k, Json.Spells s.toList (.array (config.values.take k)) →
      parse? defaults s = some (config.partOver (fieldNames.take k) defaults)) ∧
    ∀ (s : String) items, 7 < items.length → Json.Spells s.toList (.array items) →
      parse? defaults s = none := by
  refine ⟨fun s names members perm spelled => ?_, fun s members name known twice spelled => ?_,
    fun s k spelled => ?_, fun s items long spelled => ?_⟩ <;> rw [parse?_of_spells spelled]
  · exact ofJson?_of_given (Json.fields?_named nodup_fieldNames rfl perm) defaults
  · exact ofJson?_of_unread (Json.fields?_of_twice known twice) defaults
  · exact ofJson?_of_given (Json.fields?_array_take nodup_fieldNames rfl k) defaults
  · exact ofJson?_of_unread (Json.fields?_of_long long) defaults

/-- Two fields out of their order are read from between blanks, escapes and a member that says
nothing to a configuration, and two fields from an array; twice the same field and eight items are
refused. -/
theorem parts_read_back_of_scattered_fields :
    parse? {} ("\x7b\"later\" : [ -1.50e+3, \x7b\"\\ud800\":[ ]\x7d ],\n" ++
          "\"page_size\":7,\t\"\\u0070k\":\"k\"\x7d") =
        some { primaryKey := "k", pageSize := 7 } ∧
      parse? {} "\x7b\"pk\":\"k\",\"pk\":\"k\"\x7d" = none ∧
      parse? {} "[\"library\", \"app_\"]" =
        some { database := "library", collectionPrefix := "app_" } ∧
      parse? {} "[0,1,2,3,4,5,6,7]" = none := by
  have parts := parts_read_back {}
    { database := "library", collectionPrefix := "app_", primaryKey := "k", pageSize := 7 }
  refine ⟨?_, ?_, ?_, ?_⟩
  · refine (parts.1 _ ["pk", "page_size"]
      [("later", .array [.real "-1.50e+3", .object [(none, .array [])]]), ("page_size", .int 7),
        ("pk", .text "k")] ?_ (Json.parse_eq_some_iff.mp (by decide +kernel))).trans (by decide)
    exact .swap ..
  · exact parts.2.1 _ [(some "pk", .text "k"), (some "pk", .text "k")] "pk" (by decide) (by decide)
      (Json.parse_eq_some_iff.mp (by decide +kernel))
  · exact (parts.2.2.1 _ 2 (Json.parse_eq_some_iff.mp (by decide +kernel))).trans (by decide)
  · exact parts.2.2.2 _ [.int 0, .int 1, .int 2, .int 3, .int 4, .int 5, .int 6, .int 7] (by decide)
      (Json.parse_eq_some_iff.mp (by decide +kernel))

end DocQuery.Config
