import DocQuery.Proofs.Server.Basic
import DocQuery.Proofs.Statement.Pipelines

/-!
# What a read selects

The meaning of options without any pipeline: rows are matched, grouped and sorted as far as the
options ask for it, then some are passed over, some are kept, and each is shown in its projection.
Numbers of rows are unbounded here. The pipeline of the options selects the same rows: the numbers
in its stages are cut off at the largest signed word, and no list of rows is long enough to notice.
-/

namespace DocQuery

namespace Options

/-- The rows between the skip and the limit. A limit of zero lets all rows through. -/
def window (options : Options) (rows : List Document) : List Document :=
  let remaining := rows.drop (options.skip.getD 0).toNat
  match positive options.limit with
  | none => remaining
  | some limit => remaining.take limit.toNat

end Options

namespace Server

variable (server : Server)

def matching (options : Options) (rows : List Document) : Option (List Document) :=
  if options.filter.isEmpty then some rows else server.filter options.filter rows

def grouping (options : Options) (rows : List Document) : Option (List Document) :=
  match options.group with
  | none => some rows
  | some group => server.group group rows

def ordering (options : Options) (rows : List Document) : Option (List Document) :=
  match options.sort with
  | none => some rows
  | some order => server.sort order rows

/-- The rows that matching, grouping and sorting leave. -/
def found (options : Options) (rows : List Document) : Option (List Document) :=
  (server.matching options rows).bind fun matched =>
    (server.grouping options matched).bind (server.ordering options)

def shown (options : Options) : Option (Document → Document) :=
  match options.projection with
  | none => some id
  | some projection => server.project projection

/-! ## Stages -/

theorem stage_skip (n : UInt64) (rows : List Document) :
    server.stage rows (Stage.skip n).toDocument = some (rows.drop (min n.toNat maxRows)) := by
  show (if 0 ≤ (Int64.ofNat _).toInt then some (rows.drop (Int64.ofNat _).toInt.toNat) else none)
    = _
  rw [maxRows_eq, Options.toInt_cutOff, if_pos (Int.natCast_nonneg _), Int.toNat_natCast]

theorem stage_limit {n : UInt64} (nonzero : n ≠ 0) (rows : List Document) :
    server.stage rows (Stage.limit n).toDocument = some (rows.take (min n.toNat maxRows)) := by
  show (if 0 < (Int64.ofNat _).toInt then some (rows.take (Int64.ofNat _).toInt.toNat) else none)
    = _
  have least : n.toNat ≠ 0 := fun zero => nonzero (UInt64.toNat_inj.mp zero)
  have positive : 0 < (min n.toNat 9223372036854775807 : Nat) := by omega
  rw [maxRows_eq, Options.toInt_cutOff, if_pos (Int.natCast_pos.mpr positive), Int.toNat_natCast]

/-- A stage that is there only if its option is set. -/
theorem run_ofOption {α : Type} (make : α → Stage) (option : Option α) (rows : List Document) :
    server.run ((Stage.ofOption make option).map Stage.toDocument) rows =
      match option with
      | none => some rows
      | some a => server.stage rows (make a).toDocument := by
  cases option with
  | none => rfl
  | some a => exact server.run_singleton _ rows

/-! ## Pipelines -/

theorem run_matching (options : Options) (rows : List Document) :
    server.run ((Stage.ofOption .filter (Options.nonEmpty options.filter)).map Stage.toDocument)
      rows = server.matching options rows := by
  rw [run_ofOption, Options.nonEmpty, matching]
  by_cases everything : options.filter.isEmpty
  · simp only [everything, if_true]
  · simp only [everything, Bool.false_eq_true, if_false]
    rfl

theorem run_grouping (options : Options) (rows : List Document) :
    server.run ((Stage.ofOption .group options.group).map Stage.toDocument) rows =
      server.grouping options rows := by
  rw [run_ofOption, grouping]
  cases options.group <;> rfl

theorem run_ordering (options : Options) (rows : List Document) :
    server.run ((Stage.ofOption .sort options.sort).map Stage.toDocument) rows =
      server.ordering options rows := by
  rw [run_ofOption, ordering]
  cases options.sort <;> rfl

/-- A skip that is cut off at the largest signed word passes over the same rows, as long as there
are no more. -/
theorem run_skip (skip : Option UInt64) {rows : List Document} (bounded : rows.length ≤ maxRows) :
    server.run ((Stage.ofOption .skip (Options.positive skip)).map Stage.toDocument) rows =
      some (rows.drop (skip.getD 0).toNat) := by
  rcases skip with _ | n
  · rfl
  · by_cases zero : n = 0
    · subst zero
      rfl
    · rw [run_ofOption, Options.positive_some zero]
      simp only [stage_skip, Option.getD_some, Option.some.injEq]
      exact List.drop_eq_drop_iff.mpr (by omega)

theorem run_limit (limit : Option UInt64) {rows : List Document}
    (bounded : rows.length ≤ maxRows) :
    server.run ((Stage.ofOption .limit (Options.positive limit)).map Stage.toDocument) rows =
      some (match Options.positive limit with
        | none => rows
        | some n => rows.take n.toNat) := by
  rcases limit with _ | n
  · rfl
  · by_cases zero : n = 0
    · subst zero
      rfl
    · rw [run_ofOption, Options.positive_some zero]
      simp only [stage_limit server zero, Option.some.injEq]
      exact List.take_eq_take_iff.mpr (by omega)

theorem run_projection (options : Options) (rows : List Document) :
    server.run ((Stage.ofOption .project options.projection).map Stage.toDocument) rows =
      (server.shown options).map (rows.map ·) := by
  rw [run_ofOption, shown]
  cases options.projection with
  | none => simp
  | some projection => rfl

/-- A pipeline that does not count shows the rows between the skip and the limit among those that
are found. -/
theorem run_pipeline {options : Options} (uncounted : options.countLabel = none)
    (version : ServerVersion) {rows all : List Document}
    (found : server.found options rows = some all) (bounded : all.length ≤ maxRows) :
    server.run ((options.pipeline version).map Stage.toDocument) rows =
      (server.shown options).map ((options.window all).map ·) := by
  obtain ⟨matched, matching, found⟩ := Option.bind_eq_some_iff.mp found
  obtain ⟨grouped, grouping, ordering⟩ := Option.bind_eq_some_iff.mp found
  have remaining : (all.drop (options.skip.getD 0).toNat).length ≤ maxRows := by
    rw [List.length_drop]
    omega
  simp only [Options.pipeline, uncounted, Stage.ofOption_none, List.append_nil, List.map_append,
    run_append, run_matching, matching, Option.bind_some, run_grouping, grouping, run_ordering,
    ordering, run_skip server _ bounded, run_limit server _ remaining, run_projection]
  rfl

end Server

end DocQuery
