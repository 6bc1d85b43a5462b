import DocQuery.Proofs.Document.Fields
import DocQuery.Proofs.Statement.Options

/-!
# Stages that a server can read

A server refuses stages that say nothing: an empty projection, a limit of zero, a number of rows that
is no signed word. No options that can be arrived at become such a stage. A projection, an order or a
grouping is never set to an empty document, because that says the same as a removal; every change
keeps this, whatever the options were before. Numbers of rows that a signed word cannot hold are cut
off at the largest one.
-/

namespace DocQuery

namespace Options

theorem isEmpty_of_nonEmpty {document content : Document} (said : nonEmpty document = some content) :
    content.isEmpty = false := by
  rw [nonEmpty] at said
  split at said
  · contradiction
  · rename_i filled
    rw [← Option.some.inj said]
    exact Bool.eq_false_iff.mpr filled

/-- Options without empty documents. An empty filter is no filter, so it does not count. -/
structure Meaningful (options : Options) : Prop where
  projection : ∀ document, options.projection = some document → document.isEmpty = false
  sort : ∀ document, options.sort = some document → document.isEmpty = false
  group : ∀ document, options.group = some document → document.isEmpty = false

theorem meaningful_default : (default : Options).Meaningful := ⟨nofun, nofun, nofun⟩

variable {options : Options}

/-- Options stay free of empty documents whatever is changed. -/
theorem Meaningful.edit (meaningful : options.Meaningful) (edit : Edit) :
    (options.edit edit).Meaningful := by
  cases edit with
  | projection document =>
      exact { meaningful with projection := fun _ => isEmpty_of_nonEmpty }
  | sort document => exact { meaningful with sort := fun _ => isEmpty_of_nonEmpty }
  | group document => exact { meaningful with group := fun _ => isEmpty_of_nonEmpty }
  | remove key =>
      cases key with
      | projection => exact { meaningful with projection := nofun }
      | sort => exact { meaningful with sort := nofun }
      | group => exact { meaningful with group := nofun }
      | _ => exact { meaningful with }
  | reset => exact meaningful_default
  | _ => exact { meaningful with }

theorem Meaningful.editAll (meaningful : options.Meaningful) (edits : List Edit) :
    (options.editAll edits).Meaningful := by
  induction edits generalizing options with
  | nil => exact meaningful
  | cons edit edits ih => exact ih (meaningful.edit edit)

/-- A number of rows as a signed word that is not zero, cut off at the largest one. -/
structure CutOff (n : UInt64) (rows : Int64) : Prop where
  least : 1 ≤ rows.toInt
  most : rows.toInt ≤ 9223372036854775807
  same : rows.toInt = min n.toNat 9223372036854775807

theorem toInt_cutOff (n : UInt64) :
    (Int64.ofNat (min n.toNat (UInt64.size / 2 - 1))).toInt =
      (min n.toNat 9223372036854775807 : Nat) := by
  rw [show UInt64.size / 2 - 1 = 9223372036854775807 from rfl]
  exact Int64.toInt_ofNat_of_lt (by omega)

theorem cutOff_of_pos {n : UInt64} (more : 0 < n) :
    CutOff n (.ofNat (min n.toNat (UInt64.size / 2 - 1))) := by
  have least : 0 < n.toNat := UInt64.lt_iff_toNat_lt.mp more
  have same := toInt_cutOff n
  constructor <;> omega

/-- The documents that options become as stages: each has the operator of the stage as its only
name, and a payload that a server can read. -/
inductive Asks (options : Options) : Document → Prop where
  | document {operator : String} {fields : Document}
      (named : operator ∈ ["$match", "$group", "$sort", "$project"])
      (filled : fields.isEmpty = false) : Asks options ⟨[(operator, .document fields)]⟩
  | skip {n : UInt64} {rows : Int64} (set : options.skip = some n) (cut : CutOff n rows) :
      Asks options ⟨[("$skip", .int64 rows)]⟩
  | limit {n : UInt64} {rows : Int64} (set : options.limit = some n) (cut : CutOff n rows) :
      Asks options ⟨[("$limit", .int64 rows)]⟩
  | count {label : String} (set : options.countLabel = some label) :
      Asks options ⟨[("$count", .string label)]⟩

/-- Rows are counted by a stage of its own, or by one that is not an empty document. -/
theorem asks_counting {label : String} (set : options.countLabel = some label)
    (version : ServerVersion) : options.Asks (Stage.counting label version).toDocument := by
  rw [Stage.counting]
  cases version.hasCountStage with
  | true => exact .count set
  | false => exact .document (by simp [Stage.name]) (Fields.isEmpty_insert _ _ _)

/-- A stage that an option becomes can be read. -/
theorem Meaningful.asks (meaningful : options.Meaningful) (version : ServerVersion)
    {key : OptionKey} {content : key.Content} (set : options.value? key = some content)
    {stage : Stage} (made : stageOf? version key content = some stage) :
    options.Asks stage.toDocument := by
  cases key with
  | filter =>
      obtain rfl := Option.some.inj made
      exact .document (by simp [Stage.name]) (isEmpty_of_nonEmpty set)
  | group =>
      obtain rfl := Option.some.inj made
      exact .document (by simp [Stage.name]) (meaningful.group content set)
  | sort =>
      obtain rfl := Option.some.inj made
      exact .document (by simp [Stage.name]) (meaningful.sort content set)
  | projection =>
      obtain rfl := Option.some.inj made
      exact .document (by simp [Stage.name]) (meaningful.projection content set)
  | skip =>
      obtain ⟨more, made⟩ := Option.ite_none_right_eq_some.mp made
      obtain rfl := Option.some.inj made
      exact .skip set (cutOff_of_pos more)
  | limit =>
      obtain ⟨more, made⟩ := Option.ite_none_right_eq_some.mp made
      obtain rfl := Option.some.inj made
      exact .limit set (cutOff_of_pos more)
  | count =>
      obtain rfl := Option.some.inj made
      exact asks_counting set version
  | upsert => contradiction
  | idsAsText => contradiction

/-- Whatever was done to options before, what they become can be read: each stage has its operator
as the only name, with a document that is not empty or a positive signed word, and the command tells
the collection and the stages in order. -/
theorem pipeline_readable (edits : List Edit) (version : ServerVersion) :
    let options := (default : Options).editAll edits
    (∀ stage ∈ options.pipeline version,
      stage.toDocument.names = [stage.name] ∧ options.Asks stage.toDocument) ∧
    ∀ target : Namespace,
      aggregateCommand target (options.pipeline version) =
        ⟨[("aggregate", .string target.collection),
          ("pipeline", .array ((options.pipeline version).map fun stage =>
            .document stage.toDocument)),
          ("cursor", .document ⟨[]⟩)]⟩ := by
  intro options
  have meaningful : options.Meaningful := meaningful_default.editAll edits
  refine ⟨?_, ?_⟩
  · intro stage member
    rw [pipeline_eq_filterMap] at member
    obtain ⟨key, -, made⟩ := List.mem_filterMap.mp member
    obtain ⟨content, set, made⟩ := Option.bind_eq_some_iff.mp made
    exact ⟨rfl, meaningful.asks version set made⟩
  · intro target
    rfl

/-- An order that is taken back is no stage, and the largest word is cut off. -/
theorem pipeline_readable_cut_off :
    let edits : List Edit :=
      [.sort (.singleton "age" (.int32 1)), .limit 18446744073709551615, .sort ∅]
    let options := (default : Options).editAll edits
    options.pipeline ⟨3, 2⟩ = [.limit 18446744073709551615] ∧
      options.Asks ⟨[("$limit", .int64 9223372036854775807)]⟩ := by
  intro edits options
  have only : options.pipeline ⟨3, 2⟩ = [.limit 18446744073709551615] := rfl
  have member : Stage.limit 18446744073709551615 ∈ options.pipeline ⟨3, 2⟩ :=
    only ▸ List.mem_cons_self
  exact ⟨only, ((pipeline_readable edits ⟨3, 2⟩).1 _ member).2⟩

end Options

end DocQuery
