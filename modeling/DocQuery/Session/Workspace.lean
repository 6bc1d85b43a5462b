import DocQuery.Session.Run

/-!
# Several sessions on one connection

Sessions of one connection share its executor, its identifiers and what is known of the server, and
nothing else. A workspace holds sessions under names, and what they share.
-/

namespace DocQuery

/-- Sessions under names, with what they share. -/
structure Workspace (σ τ : Type) where
  shared : Shared σ τ
  sessions : Fields Session := ∅

namespace Workspace

variable {σ τ : Type}

def session? (workspace : Workspace σ τ) (name : String) : Option Session :=
  workspace.sessions.get? name

/-- Opens a session on a collection, in the place of what is under the name. -/
def openSession (connection : Connection σ τ) (name collection : String)
    (workspace : Workspace σ τ) : Workspace σ τ :=
  { workspace with
    sessions := workspace.sessions.insert name (connection.collection collection) }

def set (connection : Connection σ τ) (name : String) (setting : Setting)
    (workspace : Workspace σ τ) : Workspace σ τ :=
  match workspace.session? name with
  | none => workspace
  | some session =>
    let (session, shared) := connection.set session setting workspace.shared
    { shared, sessions := workspace.sessions.insert name session }

/-- Runs an operation on a session. There is no answer if there is no session under the name. -/
def perform (connection : Connection σ τ) (name : String) (operation : Operation)
    (workspace : Workspace σ τ) :
    Option (Except Fault operation.Answer) × Workspace σ τ :=
  match workspace.session? name with
  | none => (none, workspace)
  | some session =>
    let ((answer, session), shared) := connection.perform session operation workspace.shared
    (some answer, { shared, sessions := workspace.sessions.insert name session })

def serverVersion (connection : Connection σ τ) (workspace : Workspace σ τ) :
    Except Fault ServerVersion × Workspace σ τ :=
  let (version, shared) := connection.serverVersion workspace.shared
  (version, { workspace with shared })

inductive Step where
  | openSession (name collection : String)
  | set (name : String) (setting : Setting)
  | perform (name : String) (operation : Operation)

def step (connection : Connection σ τ) (workspace : Workspace σ τ) : Step → Workspace σ τ
  | .openSession name collection => workspace.openSession connection name collection
  | .set name setting => workspace.set connection name setting
  | .perform name operation => (workspace.perform connection name operation).2

section

variable (connection : Connection σ τ) {workspace : Workspace σ τ} {name : String}

theorem step_set_of_none (setting : Setting) (missing : workspace.session? name = none) :
    workspace.step connection (.set name setting) = workspace := by
  simp only [step, set, missing]

theorem step_set_of_some (setting : Setting) {session : Session}
    (found : workspace.session? name = some session) :
    workspace.step connection (.set name setting) =
      ⟨(connection.set session setting workspace.shared).2,
        workspace.sessions.insert name (connection.set session setting workspace.shared).1⟩ := by
  simp only [step, set, found]
  rfl

theorem step_perform_of_none (operation : Operation) (missing : workspace.session? name = none) :
    workspace.step connection (.perform name operation) = workspace := by
  simp only [step, perform, missing]

theorem step_perform_of_some (operation : Operation) {session : Session}
    (found : workspace.session? name = some session) :
    workspace.step connection (.perform name operation) =
      ⟨(connection.perform session operation workspace.shared).2,
        workspace.sessions.insert name
          (connection.perform session operation workspace.shared).1.2⟩ := by
  simp only [step, perform, found]
  rfl

end

def run (connection : Connection σ τ) (workspace : Workspace σ τ) (steps : List Step) :
    Workspace σ τ :=
  steps.foldl (step connection) workspace

@[simp] theorem run_nil (connection : Connection σ τ) (workspace : Workspace σ τ) :
    workspace.run connection [] = workspace := rfl

@[simp] theorem run_cons (connection : Connection σ τ) (workspace : Workspace σ τ) (next : Step)
    (steps : List Step) :
    workspace.run connection (next :: steps) =
      (workspace.step connection next).run connection steps := rfl

end Workspace

end DocQuery
