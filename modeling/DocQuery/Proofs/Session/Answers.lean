import DocQuery.Proofs.Session.Outcome
import DocQuery.Proofs.Session.Requests

/-!
# Requests that have been answered

Not every request is answered: the executor may fail at any of them. The requests that it answers
are seen by running an action over an executor that writes a request down behind its answer, and
only if there is one. As with a log of all requests, the run is the plain run otherwise.

From a request that is answered its statement can be read. A session keeps a statement apart from
the request that it sends, and the two agree: what a session keeps of an operation are the
statements of the requests that were answered. The question for the version is no statement.
-/

namespace DocQuery

variable {σ τ : Type}

/-- Writes down each request that an executor answers. -/
def Executor.confirmed (executor : Executor σ) : Executor (List Request × σ) where
  answer request state :=
    let (reply, inner) := executor.answer request state.2
    (reply, if reply.isOk then state.1 ++ [request] else state.1, inner)

namespace Connection

/-- The same connection over an executor whose answered requests are written down. -/
def confirmed (connection : Connection σ τ) : Connection (List Request × σ) τ where
  executor := connection.executor.confirmed
  codec := connection.codec
  config := connection.config
  flawless := connection.flawless

def answered {α : Type} (connection : Connection σ τ)
    (action : Connection (List Request × σ) τ → StateM (Shared (List Request × σ) τ) α)
    (shared : Shared σ τ) : List Request :=
  (action connection.confirmed (shared.withLog [])).2.executor.1

def ifAnswered (connection : Connection σ τ) (request : Request) (shared : Shared σ τ) :
    List Request :=
  if (connection.executor.answer request shared.executor).1.isOk then [request] else []

/-- An executor that confirms notes down each request that is answered. -/
theorem notedBy_confirmed (connection : Connection σ τ) :
    connection.NotedBy connection.ifAnswered connection.confirmed where
  codec := rfl
  config := rfl
  send := by
    intro request log shared
    simp only [send, confirmed, Executor.confirmed, Shared.withLog, ifAnswered]
    generalize connection.executor.answer request shared.executor = answer
    obtain ⟨reply, after⟩ := answer
    cases reply with
    | error fault =>
        simp only [Except.isOk, Except.toBool, Bool.false_eq_true, if_false, List.append_nil]
    | ok value => rfl

end Connection

/-! ## Statements of requests -/

/-- The statement that a bulk write is: its only update, its only removal, or the insert of all its
documents in order. -/
def BulkWrite.statement? (bulk : BulkWrite) : Option Statement :=
  match bulk.operations with
  | [.update filter change multi upsert] => some (.update filter change multi upsert)
  | [.delete filter justOne] => some (.remove filter justOne)
  | operations => .insert <$> operations.mapM WriteOperation.inserted?

def Request.statement? : Request → Option Statement
  | .version => none
  | .bulkWrite bulk => bulk.statement?
  | .command _ document => some (.command document)

/-- Documents that are inserted can be read off their operations. -/
theorem mapM_inserted? (documents : List Document) :
    (documents.map WriteOperation.insert).mapM WriteOperation.inserted? = some documents := by
  induction documents with
  | nil => rfl
  | cons document documents ih =>
      rw [List.map_cons, List.mapM_cons, ih]
      rfl

/-- The statement that is kept of a write is the one that is sent. -/
theorem Write.statement?_bulk (write : Write) (target : Namespace)
    (concern : Option WriteConcern) :
    (write.bulk target concern).statement? = some write.statement := by
  cases write with
  | insert documents =>
      have all := mapM_inserted? documents
      cases documents with
      | nil => rfl
      | cons document documents =>
          show Statement.insert <$> ((document :: documents).map WriteOperation.insert).mapM
            WriteOperation.inserted? = _
          rw [all]
          rfl
  | update filter change multi upsert => rfl
  | remove filter justOne => rfl

namespace Connection

variable (connection : Connection σ τ) (session : Session)

theorem eq_of_mem_ifAnswered {request sent : Request} {shared : Shared σ τ}
    (answered : sent ∈ connection.ifAnswered request shared) : sent = request := by
  rw [ifAnswered] at answered
  split at answered
  · exact List.mem_singleton.mp answered
  · exact absurd answered List.not_mem_nil

theorem ifAnswered_of_error {request : Request} {fault : Fault} {shared after : Shared σ τ}
    (failed : connection.send request shared = (.error fault, after)) :
    connection.ifAnswered request shared = [] := by
  have refused : (connection.executor.answer request shared.executor).1 = .error fault :=
    congrArg Prod.fst failed
  rw [ifAnswered, refused]
  rfl

theorem ifAnswered_of_ok {request : Request} {reply : request.Reply} {shared after : Shared σ τ}
    (replied : connection.send request shared = (.ok reply, after)) :
    connection.ifAnswered request shared = [request] := by
  have answered : (connection.executor.answer request shared.executor).1 = .ok reply :=
    congrArg Prod.fst replied
  rw [ifAnswered, answered]
  rfl

/-- Whatever is answered in front of the command of a read is the question for the version. -/
theorem eq_version_of_mem_readCommandNoted {options : Options} {shared : Shared σ τ}
    {sent : Request}
    (answered : sent ∈ connection.readCommandNoted connection.ifAnswered options shared) :
    sent = .version := by
  rw [readCommandNoted] at answered
  split at answered
  · rw [versionNoted] at answered
    split at answered
    · exact absurd answered List.not_mem_nil
    · exact connection.eq_of_mem_ifAnswered answered
  · exact absurd answered List.not_mem_nil

theorem statements_readCommandNoted (options : Options) (shared : Shared σ τ) :
    (connection.readCommandNoted connection.ifAnswered options shared).filterMap
      Request.statement? = [] := by
  rw [List.filterMap_eq_nil_iff]
  intro sent answered
  rw [connection.eq_version_of_mem_readCommandNoted answered]
  rfl

/-- What is answered is the question for the version, or else it is a statement. -/
theorem statement?_of_mem_planNoted {α : Type} {target : Namespace} {plan : Plan α}
    {shared : Shared σ τ} {sent : Request}
    (answered : sent ∈ connection.planNoted connection.ifAnswered target plan shared) :
    sent = .version ∨ sent.statement?.isSome = true := by
  cases plan with
  | done answer => exact absurd answered List.not_mem_nil
  | write write ids answer =>
      right
      rw [connection.eq_of_mem_ifAnswered answered, Request.statement?, Write.statement?_bulk]
      rfl
  | read options answer =>
      rcases List.mem_append.mp answered with before | command
      · exact .inl (connection.eq_version_of_mem_readCommandNoted before)
      · right
        split at command
        · exact absurd command List.not_mem_nil
        · rw [connection.eq_of_mem_ifAnswered command]
          rfl

/-- A session keeps the statements of what is answered, one after another. -/
theorem tracer_carryOut {α : Type} (plan : Plan α) (shared : Shared σ τ) :
    (connection.carryOut session plan shared).1.2.tracer =
      ((connection.planNoted connection.ifAnswered session.target plan shared).filterMap
        Request.statement?).foldl (·.record session.target ·) session.tracer := by
  have ends := connection.ends_carryOut session plan shared
  generalize connection.carryOut session plan shared = carried at ends ⊢
  cases ends with
  | done answer => rfl
  | unwritten failed =>
      rw [planNoted, connection.ifAnswered_of_error failed]
      rfl
  | @written write _ _ _ _ replied =>
      have shown := write.statement?_bulk session.target connection.config.writeConcern
      rw [planNoted, connection.ifAnswered_of_ok replied]
      simp only [List.filterMap_cons, Request.statement?, shown]
      rfl
  | uncompiled unknown =>
      rw [planNoted, List.filterMap_append, statements_readCommandNoted, unknown]
      rfl
  | unread compiled failed =>
      rw [planNoted, List.filterMap_append, statements_readCommandNoted, compiled]
      simp only [connection.ifAnswered_of_error failed]
      rfl
  | read compiled replied =>
      rw [planNoted, List.filterMap_append, statements_readCommandNoted, compiled]
      simp only [connection.ifAnswered_of_ok replied]
      rfl

/-- What is answered in an operation. -/
theorem answered_perform (operation : Operation) (shared : Shared σ τ) :
    connection.answered (·.perform session operation) shared =
      connection.operationNoted connection.ifAnswered session operation shared := by
  rw [answered, connection.notedBy_confirmed.perform session operation [] shared]
  rfl

theorem statement?_of_mem_answered {operation : Operation} {shared : Shared σ τ} {sent : Request}
    (answered : sent ∈ connection.answered (·.perform session operation) shared) :
    sent = .version ∨ sent.statement?.isSome = true := by
  rw [answered_perform] at answered
  exact connection.statement?_of_mem_planNoted answered

theorem tracer_perform (operation : Operation) (shared : Shared σ τ) :
    (connection.perform session operation shared).1.2.tracer =
      ((connection.answered (·.perform session operation) shared).filterMap
        Request.statement?).foldl (·.record session.target ·) session.tracer := by
  rw [answered_perform]
  exact connection.tracer_carryOut session _ _

end Connection

/-- The last statement of several is the one that is kept, if statements are kept at all. -/
theorem Tracer.foldl_record (tracer : Tracer) (target : Namespace) (statements : List Statement) :
    statements.foldl (·.record target ·) tracer =
      if tracer.enabled then
        { tracer with last := (statements.getLast?.map (·.text target)).or tracer.last }
      else tracer := by
  induction statements generalizing tracer with
  | nil => split <;> rfl
  | cons statement statements ih =>
      rw [List.foldl_cons, ih, Tracer.enabled_record]
      cases on : tracer.enabled with
      | false => simp only [record, on, Bool.false_eq_true, if_false]
      | true =>
          simp only [record, on, if_true, List.getLast?_cons]
          cases statements.getLast? <;> rfl

end DocQuery
