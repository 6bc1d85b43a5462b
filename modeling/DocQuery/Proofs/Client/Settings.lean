import DocQuery.Client.Config
import DocQuery.Client.ConnectionString
import DocQuery.Proofs.Traversal

/-!
# What a client is set to

Each setting of a client is what the last step that speaks of it asks for, or else the default, or
else what the connection string says. Steps and layers are looked at one setting at a time here, so
that nothing has to be said about the others.

Two settings depend on each other: the least size of the pool is not to exceed the greatest one.
This is checked where a configuration is built, before anything is known of the connection string.
The greatest size is always set by then, while the least size may still come from the string: a
string that asks for more connections than the configuration allows is accepted, and the sizes that
the client gets contradict each other. All this holds for every reader of connection strings.
-/

namespace DocQuery

namespace ClientSettings

inductive Key where
  | appName
  | minPoolSize
  | maxPoolSize
  | maxIdleTime
  | connectTimeout
  | serverSelectionTimeout
  | readPreference
  | retryWrites
  | retryReads
  | directConnection
deriving DecidableEq, Repr

/-- What a setting can be set to, where what is read from is said by a `π`. -/
abbrev Key.Content (π : Type) : Key → Type
  | appName => String
  | minPoolSize | maxPoolSize => UInt32
  | maxIdleTime | connectTimeout | serverSelectionTimeout => Duration
  | readPreference => π
  | retryWrites | retryReads | directConnection => Bool

/-- What a setting is set to, in the driver's terms. The read preference is the only one for which
these are others. -/
def Key.toDriver {γ : Type} [Inhabited γ] :
    (key : Key) → key.Content ReadPreference → key.Content (SelectionCriteria γ)
  | readPreference => ReadPreference.toDriver
  | appName => id
  | minPoolSize | maxPoolSize => id
  | maxIdleTime | connectTimeout | serverSelectionTimeout => id
  | retryWrites | retryReads | directConnection => id

variable {π : Type}

def value? (settings : ClientSettings π) : (key : Key) → Option (key.Content π)
  | .appName => settings.appName
  | .minPoolSize => settings.minPoolSize
  | .maxPoolSize => settings.maxPoolSize
  | .maxIdleTime => settings.maxIdleTime
  | .connectTimeout => settings.connectTimeout
  | .serverSelectionTimeout => settings.serverSelectionTimeout
  | .readPreference => settings.readPreference
  | .retryWrites => settings.retryWrites
  | .retryReads => settings.retryReads
  | .directConnection => settings.directConnection

/-- Of two layers the upper one decides about each setting, unless it leaves it open. -/
theorem value?_layOver (own others : ClientSettings π) (key : Key) :
    (own.layOver others).value? key = (own.value? key <|> others.value? key) := by
  cases key <;> rfl

theorem value?_toDriver {γ : Type} [Inhabited γ] (settings : ClientSettings ReadPreference)
    (key : Key) :
    (settings.toDriver : ClientSettings (SelectionCriteria γ)).value? key =
      (settings.value? key).map key.toDriver := by
  cases key with
  | readPreference => rfl
  | _ => exact Option.map_id_apply.symm

/-- The sizes of the pool do not contradict each other. -/
def PoolFits (settings : ClientSettings π) : Prop :=
  ∀ least ∈ settings.minPoolSize, ∀ most ∈ settings.maxPoolSize, least ≤ most

theorem poolFits_iff {settings : ClientSettings π} {most : UInt32}
    (greatest : settings.maxPoolSize = some most) :
    settings.PoolFits ↔ ∀ least ∈ settings.minPoolSize, least ≤ most := by
  rw [PoolFits, greatest]
  constructor
  · exact fun fits least asked => fits least asked most rfl
  · rintro fits least asked _ ⟨⟩
    exact fits least asked

/-- The upper layer's own sizes fit together. What the lower layer adds is a least size, where the
upper one has none. -/
theorem poolFits_layOver {own others : ClientSettings π} {most : UInt32} (fits : own.PoolFits)
    (greatest : own.maxPoolSize = some most) :
    (own.layOver others).PoolFits ↔
      own.minPoolSize.isSome = true ∨ ∀ least ∈ others.minPoolSize, least ≤ most := by
  have above : (own.layOver others).maxPoolSize = some most :=
    (value?_layOver own others .maxPoolSize).trans (by rw [value?, greatest]; rfl)
  have layers : (own.layOver others).minPoolSize = (own.minPoolSize <|> others.minPoolSize) :=
    value?_layOver own others .minPoolSize
  rw [poolFits_iff greatest] at fits
  rw [poolFits_iff above, layers]
  cases asked : own.minPoolSize with
  | none => simp
  | some least =>
      rw [asked] at fits
      exact iff_of_true fits (.inl rfl)

end ClientSettings

namespace ClientConfig

open ClientSettings

/-- What a step sets a setting to, if it speaks of this setting. -/
def Edit.word? : Edit → (key : Key) → Option (key.Content ReadPreference)
  | appName s, .appName => some s
  | minPoolSize n, .minPoolSize => some n
  | maxPoolSize n, .maxPoolSize => some n
  | maxIdleTime d, .maxIdleTime => some d
  | connectTimeout d, .connectTimeout => some d
  | serverSelectionTimeout d, .serverSelectionTimeout => some d
  | readPreference preference, .readPreference => some preference
  | retryWrites b, .retryWrites => some b
  | retryReads b, .retryReads => some b
  | directConnection b, .directConnection => some b
  | _, _ => none

/-- What the last step that speaks of a setting sets it to. -/
def lastWord? (edits : List Edit) (key : Key) : Option (key.Content ReadPreference) :=
  edits.reverse.findSome? (·.word? key)

theorem value?_edit (config : ClientConfig) (edit : Edit) (key : Key) :
    (config.edit edit).settings.value? key = (edit.word? key <|> config.settings.value? key) := by
  cases edit <;> cases key <;> rfl

/-- A setting is what the last step that speaks of it asks for, or what it was before. -/
theorem value?_foldl_edit (config : ClientConfig) (edits : List Edit) (key : Key) :
    (edits.foldl edit config).settings.value? key =
      (lastWord? edits key <|> config.settings.value? key) :=
  Traversal.foldl_lastWord (·.settings.value? key) (·.word? key)
    (fun config edit => value?_edit config edit key) config edits

theorem isSome_lastWord?_minPoolSize {edits : List Edit} :
    (lastWord? edits .minPoolSize).isSome ↔ ∃ least, .minPoolSize least ∈ edits := by
  rw [lastWord?, List.isSome_findSome?]
  simp only [List.any_eq_true, List.mem_reverse]
  constructor
  · rintro ⟨edit, member, speaks⟩
    cases edit with
    | minPoolSize least => exact ⟨least, member⟩
    | _ => contradiction
  · rintro ⟨least, member⟩
    exact ⟨_, member, rfl⟩

/-- A configuration is accepted as it is, if its scheme is known and its pool sizes fit. -/
theorem check_eq_ok_iff {config accepted : ClientConfig} :
    config.check = .ok accepted ↔
      hasKnownScheme config.uri = true ∧ config.settings.PoolFits ∧ config = accepted := by
  rw [check, PoolFits]
  cases hasKnownScheme config.uri with
  | false => simp
  | true =>
      cases config.settings.minPoolSize with
      | none => simp
      | some least =>
          cases config.settings.maxPoolSize with
          | none => simp
          | some most =>
              by_cases exceeds : most < least
              · simp [exceeds, UInt32.not_le.mpr exceeds]
              · simp [exceeds, UInt32.not_lt.mp exceeds]

/-- What is built has the settings that its steps ask for, and the default ones elsewhere. -/
theorem value?_of_build {edits : List Edit} {config : ClientConfig}
    (built : build edits = .ok config) (key : Key) :
    config.settings.value? key = (lastWord? edits key <|> defaultSettings.value? key) := by
  obtain ⟨-, -, rfl⟩ := check_eq_ok_iff.mp built
  exact value?_foldl_edit default edits key

variable {γ ρ : Type} [Inhabited γ]

theorem clientOptions_of_read {read : String → Except String (ClientOptions γ ρ)}
    {config : ClientConfig} {options : ClientOptions γ ρ}
    (understood : read config.uri = .ok options) :
    config.clientOptions read = .ok (config.layOver options) := by
  rw [clientOptions, understood]

/-- The pool sizes of a client fit together if and only if its configuration was built with a least
size, or that of the connection string is not above the greatest size. The latter is ten unless
another one was asked for. -/
theorem poolFits_layOver_iff {edits : List Edit} {config : ClientConfig}
    (built : build edits = .ok config) (options : ClientOptions γ ρ) :
    (config.layOver options).settings.PoolFits ↔
      (∃ least, .minPoolSize least ∈ edits) ∨
        ∀ least ∈ options.settings.minPoolSize, least ≤ (lastWord? edits .maxPoolSize).getD 10 := by
  have greatest : config.settings.maxPoolSize = some ((lastWord? edits .maxPoolSize).getD 10) := by
    refine (value?_of_build built .maxPoolSize).trans ?_
    cases lastWord? edits .maxPoolSize <;> rfl
  have least : config.settings.minPoolSize = lastWord? edits .minPoolSize := by
    refine (value?_of_build built .minPoolSize).trans ?_
    cases lastWord? edits .minPoolSize <;> rfl
  have own : config.settings.PoolFits := by
    obtain ⟨-, fits, rfl⟩ := check_eq_ok_iff.mp built
    exact fits
  have told : (config.settings.toDriver : ClientSettings (SelectionCriteria γ)).PoolFits := own
  change (config.settings.toDriver.layOver options.settings).PoolFits ↔ _
  rw [poolFits_layOver told greatest, ← isSome_lastWord?_minPoolSize, ← least]
  rfl

/-- The last of two greatest sizes counts. A least size of the connection string that is the same
fits, and one more does not. -/
theorem poolFits_layOver_iff_of_two_sizes :
    let edits : List Edit := [.maxPoolSize 30, .retryReads false, .maxPoolSize 25]
    let asking (least : UInt32) : ConnectionString.Options :=
      { settings := { minPoolSize := some least }, others := { hosts := [] } }
    ∃ config, build edits = .ok config ∧
      (config.layOver (asking 25)).settings.PoolFits ∧
      ¬ (config.layOver (asking 26)).settings.PoolFits := by
  intro edits asking
  have built : build edits = .ok (edits.foldl edit default) :=
    check_eq_ok_iff.mpr ⟨by decide, nofun, rfl⟩
  refine ⟨_, built, ?_, ?_⟩
  · refine (poolFits_layOver_iff built _).mpr (.inr ?_)
    rintro least ⟨⟩
    decide
  · rw [poolFits_layOver_iff built]
    rintro (⟨least, member⟩ | fits)
    · simp [edits] at member
    · exact absurd (fits 26 rfl) (by decide)

/-- A connection string may ask for more connections than the default settings allow. It is
accepted, and the client is told to keep at least twenty connections and at most ten. -/
theorem exists_pool_contradiction :
    ∃ config options laid, build [.uri "mongodb://localhost/?minPoolSize=20"] = .ok config ∧
      ConnectionString.read config.uri = .ok options ∧ options.settings.PoolFits ∧
      config.clientOptions ConnectionString.read = .ok laid ∧
      laid.settings.minPoolSize = some 20 ∧ laid.settings.maxPoolSize = some 10 ∧
      ¬ laid.settings.PoolFits := by
  have parsed : ConnectionString.parse? "mongodb://localhost/?minPoolSize=20" =
      some ⟨{ minPoolSize := some 20 }, { hosts := [⟨"localhost", 27017⟩] }⟩ := by
    decide +kernel
  have understood := ConnectionString.read_of_parse parsed
  refine ⟨ofUri "mongodb://localhost/?minPoolSize=20", _, _, rfl, understood, ?_,
    clientOptions_of_read understood, rfl, rfl, ?_⟩
  · rintro least - most ⟨⟩
  · intro fits
    exact absurd (fits 20 rfl 10 rfl) (by decide)

end ClientConfig

end DocQuery
