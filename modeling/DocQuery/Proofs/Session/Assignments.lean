import DocQuery.Proofs.Key.Updates
import DocQuery.Proofs.Session.Verdicts

/-!
# Setting one field

To set a field is to update it, and an update is written in its brief form: the value is looked at
before it is put into the field. Most values are put there as they are. An array of two items whose
first is a text that begins with a dollar sign is taken for an operator and its operand instead, so
such an array cannot be set, and what is sent for it may be any other change of the field.

Everything else about the request is that of an update: the filter, whether all that it matches is
changed, and whether a document is inserted if it matches nothing.
-/

namespace DocQuery

variable {σ τ : Type}

/-- No value is a part of itself. -/
theorem Value.ne_pair (operator : String) (operand : Value) :
    operand ≠ .array [.string operator, operand] := by
  intro same
  have size := congrArg sizeOf same
  simp at size
  omega

/-- A field that is written alone is the only one of its update. -/
theorem PrimaryKey.sortedUpdate_singleton (key : PrimaryKey τ) {field operator : String}
    {value operand : Value} (stands : value.StandsFor operator operand)
    (other : Text.trim field = key.field → ∀ raw, operand ≠ .string raw) (source : τ) :
    key.sortedUpdate (.singleton field value) source =
      (⟨.singleton operator (.singleton (Text.trim field) operand)⟩, source) := by
  have written : (Fields.singleton field value).entries = [(field, value)] := rfl
  rw [sortedUpdate, written, Traversal.foldlM_cons, key.addEntry_of_other stands other]
  rfl

namespace Session

/-- The update that puts a value into a field of what the filter of a session matches. -/
def assignment (session : Session) (field : String) (value : Value) : Write :=
  .update session.options.filter (.singleton "$set" (.document (.singleton field value)))
    (session.options.limit ≠ some 1) (session.options.upsert.getD false)

/-- Nothing stands against setting a field of what a filter matches. -/
theorem verdict?_setField {session : Session} (database : session.target.database ≠ "")
    (collection : session.target.collection ≠ "")
    (filtered : session.options.filter.isEmpty = false) (field : String) (value : Value) :
    session.verdict? (.setField field value) = none := by
  have written : (Fields.singleton field value).isEmpty = false := rfl
  simp [verdict?, Operation.settled?, Operation.intent, fault?, Intent.flaw?, database, collection,
    filtered, written]

end Session

namespace Connection

variable (connection : Connection σ τ) {session : Session}

/-- What is sent for a field is the operator and the operand that its value stands for. -/
theorem requests_setField (database : session.target.database ≠ "")
    (collection : session.target.collection ≠ "")
    (filtered : session.options.filter.isEmpty = false) {field operator : String}
    {value operand : Value} (stands : value.StandsFor operator operand)
    (other : Text.trim field = connection.config.primaryKey → ∀ raw, operand ≠ .string raw)
    (shared : Shared σ τ) :
    connection.requests (·.perform session (.setField field value)) shared =
      [.bulkWrite ((Write.update session.options.filter
        (.singleton operator (.document (.singleton (Text.trim field) operand)))
        (session.options.limit ≠ some 1) (session.options.upsert.getD false)).bulk session.target
          connection.config.writeConcern)] := by
  have accepted := Session.verdict?_setField database collection filtered field value
  have sorted := connection.primaryKey.sortedUpdate_singleton stands other shared.source
  rw [requests_perform]
  apply connection.operationRequests_of_write? session accepted
  rw [Operation.intent, Session.write?, sorted]
  rfl

/-- For which values a field is set, whatever its name: all but those that stand for an operator and
an operand. A text is not looked at here where it would be made an identifier. -/
theorem setField_sets_iff (database : session.target.database ≠ "")
    (collection : session.target.collection ≠ "")
    (filtered : session.options.filter.isEmpty = false) (value : Value) (shared : Shared σ τ) :
    (∀ field, (Text.trim field = connection.config.primaryKey → ∀ raw, value ≠ .string raw) →
      connection.requests (·.perform session (.setField field value)) shared =
        [.bulkWrite ((session.assignment (Text.trim field) value).bulk session.target
          connection.config.writeConcern)]) ↔
      ∀ operator operand, operator.toList.head? = some '$' →
        value ≠ .array [.string operator, operand] := by
  constructor
  · rintro sets operator operand marked rfl
    -- Under another name than the primary key the operand is sent as it is.
    obtain ⟨field, other⟩ : ∃ field, Text.trim field ≠ connection.config.primaryKey := by
      by_cases first : Text.trim "a" = connection.config.primaryKey
      · refine ⟨"b", ?_⟩
        rw [← first]
        decide +kernel
      · exact ⟨"a", first⟩
    have stands : (Value.array [.string operator, operand]).StandsFor operator operand :=
      .pair marked
    have sent := connection.requests_setField database collection filtered stands
      (fun named => absurd named other) shared
    rw [sets field fun named => absurd named other] at sent
    simp only [List.cons.injEq, Request.bulkWrite.injEq, Write.bulk, Session.assignment,
      Write.operations, BulkWrite.mk.injEq, WriteOperation.update.injEq, Fields.singleton,
      Fields.mk.injEq, Prod.mk.injEq, Value.document.injEq, and_true, true_and] at sent
    exact Value.ne_pair operator operand sent.2.symm
  · intro unmarked field other
    exact connection.requests_setField database collection filtered (.plain unmarked) other shared

/-- A session with a filter, for examples. -/
def filteredSession : Session :=
  (recordedConnection.collection "users").edit (.filter (.singleton "name" (.string "Ann")))

/-- A list of two texts is set as it is, as long as the first of them is no operator. The name loses
its blanks. -/
theorem setField_sets_iff_for_list :
    let session := (filteredSession.edit (.limit 1)).edit (.upsert true)
    let list : Value := .array [.string "a", .string "b"]
    session.target.database ≠ "" ∧ session.target.collection ≠ "" ∧
      session.options.filter.isEmpty = false ∧
      (∀ operator operand, operator.toList.head? = some '$' →
        list ≠ .array [.string operator, operand]) ∧
      recordedConnection.requests (·.perform session (.setField " tags" list)) ⟨{}, 0, none⟩ =
        [.bulkWrite ⟨⟨"app", "users"⟩,
          [.update (.singleton "name" (.string "Ann"))
            (.singleton "$set" (.document (.singleton "tags" list))) false true],
          some { acknowledgment := .majority }⟩] := by
  intro session list
  have database : session.target.database ≠ "" := by decide
  have collection : session.target.collection ≠ "" := by decide
  have filtered : session.options.filter.isEmpty = false := rfl
  have plain : ∀ operator operand, operator.toList.head? = some '$' →
      list ≠ .array [.string operator, operand] := by
    intro operator operand marked same
    have named : "a" = operator := by
      have items := Value.array.inj same
      exact Value.string.inj (List.cons.inj items).1
    rw [← named] at marked
    exact absurd marked (by decide)
  have sets := (setField_sets_iff recordedConnection database collection filtered list
    ⟨{}, 0, none⟩).mpr plain " tags" fun _ _ => Value.noConfusion
  have trimmed : Text.trim " tags" = "tags" := by decide +kernel
  rw [trimmed] at sets
  exact ⟨database, collection, filtered, plain, sets⟩

/-- A list whose first text begins with a dollar sign is not set: the field is incremented. -/
theorem exists_field_incremented :
    let pair : Value := .array [.string "$inc", .int32 1]
    let sent := recordedConnection.requests (·.perform filteredSession (.setField "n" pair))
      ⟨{}, 0, none⟩
    filteredSession.target.database ≠ "" ∧ filteredSession.target.collection ≠ "" ∧
      filteredSession.options.filter.isEmpty = false ∧
      sent = [.bulkWrite ⟨⟨"app", "users"⟩,
        [.update (.singleton "name" (.string "Ann"))
          (.singleton "$inc" (.document (.singleton "n" (.int32 1)))) true false],
        some { acknowledgment := .majority }⟩] ∧
      sent ≠ [.bulkWrite ((filteredSession.assignment "n" pair).bulk filteredSession.target
        recordedConnection.config.writeConcern)] := by
  intro pair sent
  have database : filteredSession.target.database ≠ "" := by decide
  have collection : filteredSession.target.collection ≠ "" := by decide
  have filtered : filteredSession.options.filter.isEmpty = false := rfl
  have stands : pair.StandsFor "$inc" (.int32 1) := .pair (by decide)
  have trimmed : Text.trim "n" = "n" := by decide +kernel
  have incremented : sent = [.bulkWrite ⟨⟨"app", "users"⟩,
      [.update (.singleton "name" (.string "Ann"))
        (.singleton "$inc" (.document (.singleton "n" (.int32 1)))) true false],
      some { acknowledgment := .majority }⟩] := by
    have sends := recordedConnection.requests_setField database collection filtered stands
      (fun (_ : Text.trim "n" = _) _ => Value.noConfusion) ⟨{}, 0, none⟩
    rw [trimmed] at sends
    exact sends
  refine ⟨database, collection, filtered, incremented, ?_⟩
  rw [incremented]
  simp [Write.bulk, Session.assignment, Write.operations, Fields.singleton]

end Connection

end DocQuery
