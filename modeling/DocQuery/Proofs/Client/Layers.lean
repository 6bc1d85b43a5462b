import DocQuery.Proofs.Client.Settings

/-!
# Layers of the options of a client

What a client is set to is said in three places: by the steps that its configuration is built with,
by the defaults, and by the connection string. Each setting is decided by the first of these places
that speaks of it, and among the steps by the last one. What is said of the other settings makes no
difference, and all else in the options is the connection string's, whatever else the driver reads
there.

So steps that speak of different things may change places: all that matters is in which order things
are said of the same setting, or of the connection string.
-/

namespace DocQuery

/-- Settings are what each of them is set to. -/
theorem ClientSettings.eq_of_value?_eq {π : Type} {a b : ClientSettings π}
    (same : ∀ key, a.value? key = b.value? key) : a = b := by
  cases a
  cases b
  rw [ClientSettings.mk.injEq]
  exact ⟨same .appName, same .minPoolSize, same .maxPoolSize, same .maxIdleTime,
    same .connectTimeout, same .serverSelectionTimeout, same .readPreference, same .retryWrites,
    same .retryReads, same .directConnection⟩

namespace ClientConfig

open ClientSettings

/-! ## What steps speak of -/

/-- The setting that a step speaks of. A step without one speaks of the connection string. -/
def Edit.key? : Edit → Option Key
  | uri _ => none
  | appName _ => some .appName
  | minPoolSize _ => some .minPoolSize
  | maxPoolSize _ => some .maxPoolSize
  | maxIdleTime _ => some .maxIdleTime
  | connectTimeout _ => some .connectTimeout
  | serverSelectionTimeout _ => some .serverSelectionTimeout
  | readPreference _ => some .readPreference
  | retryWrites _ => some .retryWrites
  | retryReads _ => some .retryReads
  | directConnection _ => some .directConnection

/-- The connection string that a step gives, if it gives one. -/
def Edit.uri? : Edit → Option String
  | uri s => some s
  | _ => none

/-- The connection string that was given last, or else the default one. -/
def lastUri (edits : List Edit) : String :=
  (edits.reverse.findSome? Edit.uri?).getD defaultUri

/-- What a setting is built with: what the last step that speaks of it asks for, or the default. -/
def builtValue? (edits : List Edit) (key : Key) : Option (key.Content ReadPreference) :=
  lastWord? edits key <|> defaultSettings.value? key

theorem Edit.word?_of_key?_ne {edit : Edit} {key : Key} (other : edit.key? ≠ some key) :
    edit.word? key = none := by
  cases edit <;> cases key <;> first | rfl | exact absurd rfl other

theorem Edit.uri?_of_key?_ne {edit : Edit} (other : edit.key? ≠ none) : edit.uri? = none := by
  cases edit with
  | uri s => exact absurd rfl other
  | _ => rfl

theorem uri_foldl_edit (config : ClientConfig) (edits : List Edit) :
    (edits.foldl edit config).uri = (edits.reverse.findSome? Edit.uri?).getD config.uri := by
  have said (config : ClientConfig) (step : Edit) :
      some (config.edit step).uri = (step.uri? <|> some config.uri) := by
    cases step <;> rfl
  have last := Traversal.foldl_lastWord (fun config : ClientConfig => some config.uri) Edit.uri?
    said config edits
  simpa using last

/-- Steps that speak of other things can be left out when the last word is looked for. -/
theorem findSome?_reverse_filter {α : Type} {word? : Edit → Option α} {key : Option Key}
    (silent : ∀ edit, edit.key? ≠ key → word? edit = none) (edits : List Edit) :
    (edits.filter (·.key? = key)).reverse.findSome? word? = edits.reverse.findSome? word? := by
  rw [← List.getLast?_filterMap, ← List.getLast?_filterMap, List.filterMap_filter]
  congr 2
  funext edit
  by_cases about : edit.key? = key
  · simp [about]
  · simp [about, silent edit about]

/-- Of each setting, and of the connection string, the same is said in the same order. -/
def SameWords (edits others : List Edit) : Prop :=
  ∀ key, edits.filter (·.key? = key) = others.filter (·.key? = key)

/-- What is built does not depend on the order in which different things are spoken of. -/
theorem SameWords.build_eq {edits others : List Edit} (same : SameWords edits others) :
    build edits = build others := by
  have uri : (edits.foldl edit default).uri = (others.foldl edit default).uri := by
    rw [uri_foldl_edit, uri_foldl_edit,
      ← findSome?_reverse_filter (fun _ => Edit.uri?_of_key?_ne) edits, same none,
      findSome?_reverse_filter fun _ => Edit.uri?_of_key?_ne]
  have settings : (edits.foldl edit default).settings = (others.foldl edit default).settings := by
    refine eq_of_value?_eq fun key => ?_
    rw [value?_foldl_edit, value?_foldl_edit, lastWord?, lastWord?,
      ← findSome?_reverse_filter (fun _ => Edit.word?_of_key?_ne) edits, same (some key),
      findSome?_reverse_filter fun _ => Edit.word?_of_key?_ne]
  have config : edits.foldl edit default = others.foldl edit default := by
    generalize edits.foldl edit default = a at uri settings ⊢
    generalize others.foldl edit default = b at uri settings ⊢
    cases a
    cases b
    rw [ClientConfig.mk.injEq]
    exact ⟨uri, settings⟩
  rw [build, build, config]

/-! ## What is built -/

theorem hasKnownScheme_iff {uri : String} :
    hasKnownScheme uri = true ↔
      "mongodb://".toList <+: uri.toList ∨ "mongodb+srv://".toList <+: uri.toList := by
  rw [hasKnownScheme, schemes, List.any_cons, List.any_cons, List.any_nil, Bool.or_false,
    Bool.or_eq_true, List.isPrefixOf_iff_prefix, List.isPrefixOf_iff_prefix]

theorem poolFits_foldl_edit_iff (edits : List Edit) :
    (edits.foldl edit default).settings.PoolFits ↔
      ∀ least ∈ builtValue? edits .minPoolSize, ∀ most ∈ builtValue? edits .maxPoolSize,
        least ≤ most := by
  have least : (edits.foldl edit default).settings.minPoolSize = builtValue? edits .minPoolSize :=
    value?_foldl_edit default edits .minPoolSize
  have most : (edits.foldl edit default).settings.maxPoolSize = builtValue? edits .maxPoolSize :=
    value?_foldl_edit default edits .maxPoolSize
  rw [PoolFits, least, most]

/-- A configuration is refused exactly if its scheme is unknown, or its pool sizes do not fit. -/
theorem exists_build_eq_error_iff (edits : List Edit) :
    (∃ fault, build edits = .error fault) ↔
      ¬ hasKnownScheme (lastUri edits) = true ∨
        ¬ (edits.foldl edit default).settings.PoolFits := by
  have uri : (edits.foldl edit default).uri = lastUri edits := uri_foldl_edit default edits
  rw [← uri, ← Classical.not_and_iff_not_or_not]
  cases built : build edits with
  | error fault =>
      refine iff_of_true ⟨fault, rfl⟩ ?_
      rintro ⟨known, fits⟩
      have accepted : build edits = .ok (edits.foldl edit default) :=
        check_eq_ok_iff.mpr ⟨known, fits, rfl⟩
      exact nomatch built.symm.trans accepted
  | ok config =>
      obtain ⟨known, fits, -⟩ := check_eq_ok_iff.mp built
      refine iff_of_false ?_ (not_not_intro ⟨known, fits⟩)
      rintro ⟨fault, refused⟩
      contradiction

theorem uri_of_build {edits : List Edit} {config : ClientConfig}
    (built : build edits = .ok config) : config.uri = lastUri edits := by
  obtain ⟨-, -, rfl⟩ := check_eq_ok_iff.mp built
  exact uri_foldl_edit default edits

theorem value?_layOver_of_build {γ ρ : Type} [Inhabited γ] {edits : List Edit}
    {config : ClientConfig} (built : build edits = .ok config) (options : ClientOptions γ ρ)
    (key : Key) :
    (config.layOver options).settings.value? key =
      ((builtValue? edits key).map key.toDriver <|> options.settings.value? key) := by
  rw [layOver, value?_layOver, value?_toDriver, value?_of_build built, builtValue?]

/-- A configuration is refused if its connection string begins with neither scheme, or the least
size of the pool exceeds the greatest, and in no other case. The driver reads the connection string
that was given last, and the options of a client are what it reads there, but for the settings that
were asked for or have a default: each of these is what was asked for last, or else the default, in
the driver's terms. Things that are said of different settings may be said in any order. -/
theorem layers_decide {γ ρ : Type} [Inhabited γ]
    (read : String → Except String (ClientOptions γ ρ)) (edits : List Edit) :
    ((∃ fault, build edits = .error fault) ↔
      (¬ "mongodb://".toList <+: (lastUri edits).toList ∧
          ¬ "mongodb+srv://".toList <+: (lastUri edits).toList) ∨
        ∃ least ∈ builtValue? edits .minPoolSize, ∃ most ∈ builtValue? edits .maxPoolSize,
          most < least) ∧
    (∀ config, build edits = .ok config →
      (∀ reason, read (lastUri edits) = .error reason →
        config.clientOptions read = .error (.config ("failed to parse URI: " ++ reason))) ∧
      ∀ options, read (lastUri edits) = .ok options →
        ∃ laid, config.clientOptions read = .ok laid ∧ laid.others = options.others ∧
          ∀ key, laid.settings.value? key =
            ((lastWord? edits key <|> defaultSettings.value? key).map key.toDriver <|>
              options.settings.value? key)) ∧
    ∀ others, SameWords edits others → build others = build edits := by
  refine ⟨?_, ?_, fun others same => same.build_eq.symm⟩
  · rw [exists_build_eq_error_iff, hasKnownScheme_iff, not_or, poolFits_foldl_edit_iff]
    simp only [Classical.not_forall, UInt32.not_le, exists_prop]
  · intro config built
    rw [← uri_of_build built]
    refine ⟨fun reason refused => ?_, fun options understood => ?_⟩
    · rw [clientOptions, refused]
    · exact ⟨_, clientOptions_of_read understood, rfl, value?_layOver_of_build built options⟩

/-- The second of two least sizes counts, and the one of the connection string does not. The latter
decides about direct connections, of which nothing else is said, but not about the name, for which
there is a default. -/
theorem layers_decide_about_pool :
    let second := "mongodb://db/?appName=web&minPoolSize=9&directConnection=true"
    let edits : List Edit :=
      [.minPoolSize 4, .uri "mongodb://first", .readPreference .nearest, .minPoolSize 2,
        .uri second]
    let others : List Edit :=
      [.uri "mongodb://first", .uri second, .minPoolSize 4, .minPoolSize 2,
        .readPreference .nearest]
    ∃ config laid, build edits = .ok config ∧ SameWords edits others ∧
      build others = .ok config ∧ config.clientOptions ConnectionString.read = .ok laid ∧
      laid.others = { hosts := [⟨"db", 27017⟩] } ∧ laid.settings.minPoolSize = some 2 ∧
      laid.settings.directConnection = some true ∧ laid.settings.appName = some "mongo-fluent" ∧
      laid.settings.readPreference = some (.nearest ()) := by
  intro second edits others
  let options : ConnectionString.Options :=
    { settings := { appName := some "web", minPoolSize := some 9, directConnection := some true }
      others := { hosts := [⟨"db", 27017⟩] } }
  have parsed : ConnectionString.parse? second = some options := by decide +kernel
  have fits : (edits.foldl edit default).settings.PoolFits := by
    rintro least ⟨⟩ most ⟨⟩
    decide
  have built : build edits = .ok (edits.foldl edit default) :=
    check_eq_ok_iff.mpr ⟨by decide, fits, rfl⟩
  have same : SameWords edits others := by
    rintro (_ | key)
    · rfl
    · cases key <;> rfl
  obtain ⟨-, decided, ordered⟩ := layers_decide ConnectionString.read edits
  obtain ⟨laid, layers, origin, value⟩ :=
    (decided _ built).2 options (ConnectionString.read_of_parse parsed)
  exact ⟨_, laid, built, same, (ordered others same).trans built, layers, origin,
    value .minPoolSize, value .directConnection, value .appName, value .readPreference⟩

end ClientConfig

end DocQuery
