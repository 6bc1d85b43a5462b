import DocQuery.Fault
import DocQuery.ServerVersion
import DocQuery.Statement.BulkWrite

/-!
# Executors

Compiled statements are run by an executor. It is asked for three things, and each kind of request
has its own kind of reply. Nothing is assumed of how an executor arrives at its answers: it may keep
a state of its own, and it may fail at any time.
-/

namespace DocQuery

inductive Request where
  /-- Which version the server has. -/
  | version
  | bulkWrite (bulk : BulkWrite)
  /-- Run a command on a database and return all its rows. -/
  | command (database : String) (document : Document)

abbrev Request.Reply : Request → Type
  | version => ServerVersion
  | bulkWrite _ => WriteResult
  | command _ _ => List Document

/-- Answers requests, over a state of its own. -/
structure Executor (σ : Type) where
  answer : (request : Request) → StateM σ (Except Fault request.Reply)

/-- Writes down each request in front of an executor, whatever it answers. -/
def Executor.logged {σ : Type} (executor : Executor σ) : Executor (List Request × σ) where
  answer request state :=
    let (reply, inner) := executor.answer request state.2
    (reply, state.1 ++ [request], inner)

@[simp] theorem Executor.log_answer_logged {σ : Type} (executor : Executor σ) (request : Request)
    (state : List Request × σ) :
    (executor.logged.answer request state).2.1 = state.1 ++ [request] := rfl

end DocQuery
