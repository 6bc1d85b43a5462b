import DocQuery.Proofs.Session.Intents
import DocQuery.Proofs.Statement.Pipelines
import DocQuery.Proofs.Statement.Selections

/-!
# Projections that a server accepts

A projection either says which fields are shown or which are left out. A server refuses one that does
both, with one exception: `_id` may be left out beside fields that are shown. Selections of names
leave the primary key out unless they name it, so they are accepted as long as the primary key is
`_id` or is selected, and refused otherwise, whichever way the names are given.
-/

namespace DocQuery

variable {σ τ : Type}

/-- Nothing but `_id` is left out beside a field that is shown. -/
def Unmixed (projection : Document) : Prop :=
  (∃ name, projection.get? name = some (.int32 1)) →
    ∀ name, projection.get? name = some (.int32 0) → name = "_id"

theorem unmixed_empty : Unmixed ∅ := by
  rintro ⟨name, shown⟩
  contradiction

namespace Selection

/-- For which primary keys a list of names is accepted. -/
theorem unmixed_projection_iff (listed : List String) (primaryKey : String) :
    Unmixed ((names listed).projection primaryKey) ↔
      listed = [] ∨ primaryKey = "_id" ∨ primaryKey ∈ listed := by
  cases listed with
  | nil => exact iff_of_true unmixed_empty (.inl rfl)
  | cons first rest =>
      generalize projected : (names (first :: rest)).projection primaryKey = projection
      have projects : (names (first :: rest)).Projects primaryKey projection :=
        projected ▸ projects_projection rfl primaryKey
      have marked : ∀ name ∈ first :: rest, projection.get? name = some (.int32 1) := by
        intro name member
        rw [projects.selected name member, shownAs?, if_pos member]
      constructor
      · intro unmixed
        by_cases selected : primaryKey ∈ first :: rest
        · exact .inr (.inr selected)
        · have left := unmixed ⟨first, marked first List.mem_cons_self⟩
          exact .inr (.inl (left primaryKey (projects.unselected selected)))
      · rintro admitted - name omitted
        -- A name that is left out is not selected, so it is the primary key.
        have unselected : name ∉ first :: rest := by
          intro member
          have same := (marked name member).symm.trans omitted
          exact absurd (Value.int32.inj (Option.some.inj same)) (by decide)
        have named : name = primaryKey := by
          have present := Fields.mem_names_of_get? omitted
          rw [projects.names, List.mem_cons, List.mem_eraseDups, List.mem_filter] at present
          exact present.resolve_right fun other => unselected other.1
        rcases admitted with nothing | default | selected
        · contradiction
        · exact named.trans default
        · exact absurd (named ▸ selected) unselected

/-- An empty projection is the same as none. -/
theorem unmixed_nonEmpty_iff {document : Document} :
    (∀ projection, Options.nonEmpty document = some projection → Unmixed projection) ↔
      Unmixed document := by
  rw [Options.nonEmpty]
  cases empty : document.isEmpty with
  | true =>
      rw [Fields.isEmpty_iff.mp empty]
      refine iff_of_true ?_ unmixed_empty
      intro projection said
      contradiction
  | false => exact ⟨fun each => each document rfl, fun all _ same => Option.some.inj same ▸ all⟩

end Selection

/-! ## Requests -/

/-- All projections in the pipeline of a request are accepted. -/
def Request.Unmixed : Request → Prop
  | .command _ document => ∀ stages projection,
      document.get? "pipeline" = some (.array stages) →
      .document (.singleton "$project" (.document projection)) ∈ stages →
      DocQuery.Unmixed projection
  | _ => True

/-- A projection is sent for the stage that projects, and for no other one. -/
theorem Stage.toDocument_eq_project_iff {stage : Stage} {projection : Document} :
    stage.toDocument = .singleton "$project" (.document projection) ↔
      stage = .project projection := by
  constructor
  · intro same
    have entry := (List.cons.inj (Fields.mk.inj same)).1
    obtain ⟨named, asked⟩ := Prod.mk.inj entry
    cases stage with
    | project document => exact congrArg project (Value.document.inj asked)
    | _ => simp [name] at named
  · rintro rfl
    rfl

theorem Stage.mem_ofOption {α : Type} {make : α → Stage} {option : Option α} {stage : Stage} :
    stage ∈ Stage.ofOption make option ↔ ∃ a, option = some a ∧ make a = stage := by
  cases option <;> simp [eq_comm]

theorem Stage.counting_ne_project (label : String) (version : ServerVersion)
    (projection : Document) : Stage.counting label version ≠ .project projection := by
  rw [counting]
  split <;> exact Stage.noConfusion

theorem Options.project_mem_pipeline_iff {options : Options} {version : ServerVersion}
    {projection : Document} :
    .project projection ∈ options.pipeline version ↔ options.projection = some projection := by
  simp [pipeline, Stage.mem_ofOption, Stage.counting_ne_project]

/-- A command is accepted as its pipeline is. -/
theorem unmixed_aggregateCommand_iff (database : String) (target : Namespace)
    (stages : List Stage) :
    (Request.command database (aggregateCommand target stages)).Unmixed ↔
      ∀ projection, .project projection ∈ stages → Unmixed projection := by
  have pipeline : (aggregateCommand target stages).get? "pipeline" =
      some (.array (stages.map fun stage => .document stage.toDocument)) := rfl
  constructor
  · intro unmixed projection member
    exact unmixed _ projection pipeline (List.mem_map.mpr ⟨_, member, rfl⟩)
  · intro unmixed sent projection same member
    obtain rfl := Value.array.inj (Option.some.inj (pipeline.symm.trans same))
    obtain ⟨stage, inside, projects⟩ := List.mem_map.mp member
    obtain rfl := Stage.toDocument_eq_project_iff.mp (Value.document.inj projects)
    exact unmixed projection inside

namespace Connection

variable {connection : Connection σ τ} {session : Session}

/-- What a read sends is accepted if the projection is that it goes with. -/
theorem unmixed_requests_iff {operation : Operation} (reads : operation.intent = .read)
    (unsettled : operation.settled? = none) (plain : operation ≠ .count)
    (reached : connection.Reaches session) (resolved : session.target.fault? = none)
    (shared : Shared σ τ) :
    (∀ request ∈ connection.requests (·.perform session operation) shared, request.Unmixed) ↔
      ∀ projection, (session.readOptions connection.config connection.primaryKey
          operation).projection = some projection →
        Unmixed projection := by
  obtain ⟨answer, planned⟩ :=
    session.plan_eq_planRead connection.config connection.primaryKey reads unsettled
  have uncounted := session.countLabel_readOptions connection.config connection.primaryKey
    reached.countLabel_eq_none plain
  have compiled := connection.readCommand_of_uncounted session.target uncounted shared
  rw [requests_perform, operationRequests_read planned resolved compiled, readCommandRequests]
  rw [Session.readOptions] at uncounted ⊢
  simp only [uncounted, Option.isSome_none, Bool.false_eq_true, if_false, List.nil_append,
    List.forall_mem_singleton, unmixed_aggregateCommand_iff, Options.project_mem_pipeline_iff]

/-- For which primary keys the projections of selected fields are accepted, whichever way the fields
are selected: by a setting, for a column, or for a value. -/
theorem projections_unmixed_iff (connection : Connection σ τ) :
    (∀ (session : Session) (shared : Shared σ τ) (lists : List String),
      let options := (connection.set session (.field (.ofLists lists)) shared).1.options
      let names := (Selection.ofLists lists).toNames
      (∀ projection, options.projection = some projection → Unmixed projection) ↔
        names = [] ∨ connection.config.primaryKey = "_id" ∨
          connection.config.primaryKey ∈ names) ∧
    ∀ session, connection.Reaches session → session.target.fault? = none →
      ∀ shared : Shared σ τ,
        (∀ fields,
          let names := (Selection.ofList fields).toNames
          (∀ request ∈ connection.requests (·.perform session (.column fields)) shared,
            request.Unmixed) ↔
            names = [] ∨ connection.config.primaryKey = "_id" ∨
              connection.config.primaryKey ∈ names) ∧
        ∀ field, Text.trim field ≠ "" → ',' ∉ field.toList →
          ((∀ request ∈ connection.requests (·.perform session (.value field)) shared,
            request.Unmixed) ↔
            connection.config.primaryKey = "_id" ∨
              connection.config.primaryKey = Text.trim field) := by
  refine ⟨?_, ?_⟩
  · intro session shared lists
    exact Selection.unmixed_nonEmpty_iff.trans (Selection.unmixed_projection_iff _ _)
  · intro session reached resolved shared
    refine ⟨?_, ?_⟩
    · intro fields names
      rw [unmixed_requests_iff rfl rfl Operation.noConfusion reached resolved]
      simp only [Session.readOptions, Session.edits, Session.projectionOf, Options.editAll_cons,
        Options.editAll_nil, Options.edit]
      exact Selection.unmixed_nonEmpty_iff.trans (Selection.unmixed_projection_iff _ _)
    · intro field visible single
      have named : Selection.IsName (Text.trim field) := Selection.isName_trim visible single
      have unsettled : (Operation.value field).settled? = none := if_neg fun none =>
        not_or.mpr ⟨visible, named.single⟩ ((Session.namesNoField_iff field).mpr none)
      rw [unmixed_requests_iff rfl unsettled Operation.noConfusion reached resolved]
      simp only [Session.readOptions, Session.edits, Session.projectionOf, Options.editAll_cons,
        Options.editAll_nil, Options.edit]
      rw [Selection.unmixed_nonEmpty_iff, Selection.ofList, Selection.ofLists_singleton,
        Selection.namesIn_of_isName named, Selection.unmixed_projection_iff, List.mem_singleton]
      exact or_iff_right (List.cons_ne_nil _ _)

/-- A connection whose primary key has a name of its own, for examples. -/
def userKeyConnection : Connection Recorder Nat where
  executor := Recorder.executor
  codec := .counting
  config := { database := "app", primaryKey := "uid" }
  flawless := by decide

/-- A primary key with another name is accepted where it is selected itself. -/
theorem projections_unmixed_with_key :
    let session := userKeyConnection.collection "users"
    let shared : Shared Recorder Nat := ⟨{}, 0, none⟩
    userKeyConnection.Reaches session ∧ session.target.fault? = none ∧
      Text.trim " uid" ≠ "" ∧ ',' ∉ " uid".toList ∧
      (∀ request ∈ userKeyConnection.requests (·.perform session (.column "name, uid")) shared,
        request.Unmixed) ∧
      ∀ request ∈ userKeyConnection.requests (·.perform session (.value " uid")) shared,
        request.Unmixed := by
  intro session shared
  have reached : userKeyConnection.Reaches session := .collection "users"
  have resolved : session.target.fault? = none := by decide
  have visible : Text.trim " uid" ≠ "" := by decide
  have single : ',' ∉ " uid".toList := by decide
  obtain ⟨-, reads⟩ := projections_unmixed_iff userKeyConnection
  obtain ⟨column, value⟩ := reads session reached resolved shared
  refine ⟨reached, resolved, visible, single, ?_, ?_⟩
  · exact (column "name, uid").mpr (.inr (.inr (by decide)))
  · exact (value " uid" visible single).mpr (.inr (by decide))

/-- A primary key with another name is left out beside the fields that are shown, and the server
refuses the projection. -/
theorem exists_projection_mixed :
    ∃ connection : Connection Recorder Nat,
      Connection.establish Recorder.executor .counting
          { database := "app", primaryKey := "uid" } = .ok connection ∧
        let session := connection.collection "users"
        let shared : Shared Recorder Nat := ⟨{}, 0, none⟩
        let projection : Document := ⟨[("uid", .int32 0), ("name", .int32 1)]⟩
        (connection.set session (.field (.ofList "name")) shared).1.options.projection =
            some projection ∧
          connection.requests (·.perform session (.column "name")) shared =
            [.command "app" (aggregateCommand ⟨"app", "users"⟩ [.project projection])] ∧
          ¬ Unmixed projection := by
  refine ⟨userKeyConnection, rfl, rfl, rfl, ?_⟩
  intro unmixed
  exact absurd (unmixed ⟨"name", rfl⟩ "uid" rfl) (by decide)

end Connection

end DocQuery
