import DocQuery.Statement.Pipeline
import DocQuery.Proofs.Traversal
import Mathlib.Data.List.Forall2

/-!
# The last word on each option

Options are given in any order and any number of times. Each change speaks about one option, or
about all of them when everything is dropped; what an option is in the end is what was said of it
last, and what was said of the others in between makes no difference. An empty document says the
same as a removal.

The pipeline that options become is described without the order in which they were given: each stage
belongs to an option that is set, the stages stand in one order of the options, and no option that
asks for a stage is without one.
-/

namespace DocQuery

/-! ## Words -/

/-- What an option can be set to. Identifiers are handed out as texts or not: there is nothing more
to say about it. -/
abbrev OptionKey.Content : OptionKey → Type
  | filter | projection | sort | group => Document
  | limit | skip => UInt64
  | upsert => Bool
  | count => String
  | idsAsText => Unit

namespace Options

def value? (options : Options) : (key : OptionKey) → Option key.Content
  | .filter => nonEmpty options.filter
  | .projection => options.projection
  | .sort => options.sort
  | .group => options.group
  | .limit => options.limit
  | .skip => options.skip
  | .upsert => options.upsert
  | .count => options.countLabel
  | .idsAsText => if options.idsAsText then some () else none

/-- What a change says of an option: nothing, that it is not set, or what it is set to. -/
def Edit.word? : Edit → (key : OptionKey) → Option (Option key.Content)
  | filter document, .filter => some (nonEmpty document)
  | projection document, .projection => some (nonEmpty document)
  | sort document, .sort => some (nonEmpty document)
  | group document, .group => some (nonEmpty document)
  | limit n, .limit => some (some n)
  | skip n, .skip => some (some n)
  | upsert b, .upsert => some (some b)
  | count label, .count => some (some label)
  | idsAsText b, .idsAsText => some (if b then some () else none)
  | remove removed, key => if removed = key then some none else none
  | reset, _ => some none
  | _, _ => none

def lastWord? (edits : List Edit) (key : OptionKey) : Option (Option key.Content) :=
  edits.reverse.findSome? (·.word? key)

theorem isSome_nonEmpty (document : Document) :
    (nonEmpty document).isSome = !document.isEmpty := by
  rw [nonEmpty]
  cases document.isEmpty <;> rfl

/-- An option is set exactly if it is set to something. -/
theorem isSome_value? (options : Options) (key : OptionKey) :
    (options.value? key).isSome = options.contains key := by
  cases key with
  | filter => exact isSome_nonEmpty options.filter
  | idsAsText =>
      rw [value?, contains]
      cases options.idsAsText <;> rfl
  | _ => rfl

theorem value?_default (key : OptionKey) : (default : Options).value? key = none := by
  cases key <;> rfl

theorem nonEmpty_inj {a b : Document} (same : nonEmpty a = nonEmpty b) : a = b := by
  simp only [nonEmpty] at same
  split at same <;> split at same
  · rename_i first second
    rw [Fields.isEmpty_iff.mp first, Fields.isEmpty_iff.mp second]
  · contradiction
  · contradiction
  · exact Option.some.inj same

/-- Options are what each of them is set to. -/
theorem eq_of_value?_eq {a b : Options} (same : ∀ key, a.value? key = b.value? key) : a = b := by
  have texts : a.idsAsText = b.idsAsText := by
    have set := congrArg Option.isSome (same .idsAsText)
    rw [isSome_value?, isSome_value?] at set
    exact set
  cases a
  cases b
  rw [Options.mk.injEq]
  exact ⟨nonEmpty_inj (same .filter), same .projection, same .sort, same .group, same .limit,
    same .skip, same .upsert, same .count, texts⟩

/-- A change does to each option what it says of it, and leaves the others alone. -/
theorem value?_edit (options : Options) (edit : Edit) (key : OptionKey) :
    (options.edit edit).value? key = (edit.word? key).getD (options.value? key) := by
  cases edit with
  | remove removed => cases removed <;> cases key <;> rfl
  | reset => exact value?_default key
  | idsAsText b => cases key <;> rfl
  | _ => cases key <;> rfl

/-- After several changes an option is what was said of it last, or what it was before. -/
theorem value?_editAll (options : Options) (edits : List Edit) (key : OptionKey) :
    (options.editAll edits).value? key = (lastWord? edits key).getD (options.value? key) := by
  have said (options : Options) (edit : Edit) :
      some ((options.edit edit).value? key) = (edit.word? key <|> some (options.value? key)) := by
    rw [value?_edit]
    cases edit.word? key <;> rfl
  have last := Traversal.foldl_lastWord (fun options : Options => some (options.value? key))
    (·.word? key) said options edits
  rw [editAll, lastWord?]
  simpa using last

/-- Options that agree, but for those that some changes speak about, are the same behind them. -/
theorem editAll_eq_of_agree {a b : Options} {edits : List Edit}
    (agree : ∀ key, lastWord? edits key = none → a.value? key = b.value? key) :
    a.editAll edits = b.editAll edits := by
  refine eq_of_value?_eq fun key => ?_
  rw [value?_editAll, value?_editAll]
  cases said : lastWord? edits key with
  | some word => rfl
  | none => exact agree key said

/-! ## Stages -/

/-- The options that become stages, in the order of their stages. -/
def stageOrder : List OptionKey :=
  [.filter, .group, .sort, .skip, .limit, .projection, .count]

/-- The stage that an option becomes on a server of a version, with what the option is set to. To
skip no rows, or to keep none, is no stage. -/
def stageOf? (version : ServerVersion) : (key : OptionKey) → key.Content → Option Stage
  | .filter, document => some (.filter document)
  | .group, document => some (.group document)
  | .sort, document => some (.sort document)
  | .skip, n => if 0 < n then some (.skip n) else none
  | .limit, n => if 0 < n then some (.limit n) else none
  | .projection, document => some (.project document)
  | .count, label => some (Stage.counting label version)
  | .upsert, _ => none
  | .idsAsText, _ => none

theorem ofOption_eq_toList {α : Type} (make : α → Stage) (content : Option α) :
    Stage.ofOption make content = (content.bind fun a => some (make a)).toList := by
  cases content <;> rfl

theorem ofOption_positive (make : UInt64 → Stage) (content : Option UInt64) :
    Stage.ofOption make (positive content) =
      (content.bind fun n => if 0 < n then some (make n) else none).toList := by
  cases content with
  | none => rfl
  | some n =>
      by_cases zero : n = 0
      · rw [zero, positive_zero]
        rfl
      · have more : 0 < n := UInt64.pos_iff_ne_zero.mpr zero
        rw [positive_some zero, Option.bind_some, if_pos more]
        rfl

/-- A pipeline has one stage for each option that becomes one, in the order of the options. -/
theorem pipeline_eq_filterMap (options : Options) (version : ServerVersion) :
    options.pipeline version =
      stageOrder.filterMap fun key => (options.value? key).bind (stageOf? version key) := by
  rw [List.filterMap_eq_flatMap_toList, pipeline, ofOption_positive, ofOption_positive]
  simp only [ofOption_eq_toList, List.append_assoc, stageOrder, List.flatMap_cons,
    List.flatMap_nil, List.append_nil]
  rfl

/-- Options are decided by the last word on each of them: what was said before, and in which order
the options came up, makes no difference to what they are, to whether they are set, or to the stages
that they become. -/
theorem last_word_decides (edits : List Edit) :
    let options := (default : Options).editAll edits
    (∀ key, options.value? key = (lastWord? edits key).join ∧
      options.contains key = (lastWord? edits key).join.isSome) ∧
    (∀ others, (∀ key, (lastWord? others key).join = (lastWord? edits key).join) →
      (default : Options).editAll others = options) ∧
    ∀ version, options.pipeline version =
      stageOrder.filterMap fun key => (lastWord? edits key).join.bind (stageOf? version key) := by
  intro options
  have decided : ∀ (words : List Edit) (key : OptionKey),
      ((default : Options).editAll words).value? key = (lastWord? words key).join := by
    intro words key
    rw [value?_editAll, value?_default]
    cases lastWord? words key <;> rfl
  refine ⟨fun key => ⟨decided edits key, ?_⟩, ?_, ?_⟩
  · rw [← decided edits key, isSome_value?]
  · intro others same
    refine eq_of_value?_eq fun key => ?_
    rw [decided others key, decided edits key, same key]
  · intro version
    rw [pipeline_eq_filterMap]
    simp only [options, decided]

/-- Neither the order of the changes nor what is taken back makes a difference. An empty sort order
takes back the one before it. -/
theorem last_word_decides_out_of_order :
    let adults : Document := .singleton "age" (.document (.singleton "$gte" (.int32 18)))
    let edits : List Edit := [.limit 3, .filter adults, .skip 0, .count "n"]
    let others : List Edit :=
      [.filter ∅, .sort (.singleton "age" (.int32 1)), .count "n", .limit 7, .skip 2, .sort ∅,
       .filter adults, .limit 3, .remove .upsert, .skip 0]
    (∀ key, (lastWord? others key).join = (lastWord? edits key).join) ∧
      (default : Options).editAll others = (default : Options).editAll edits ∧
      ((default : Options).editAll others).pipeline ⟨3, 2⟩ =
        [.filter adults, .limit 3,
         .group ⟨[("_id", .null), ("n", .document ⟨[("$sum", .int32 1)]⟩)]⟩] := by
  intro adults edits others
  have same : ∀ key, (lastWord? others key).join = (lastWord? edits key).join := by
    intro key
    cases key <;> rfl
  obtain ⟨-, agree, stages⟩ := last_word_decides edits
  refine ⟨same, agree others same, ?_⟩
  rw [agree others same, stages]
  rfl

end Options

end DocQuery
