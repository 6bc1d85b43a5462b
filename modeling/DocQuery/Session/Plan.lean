import DocQuery.Session.Operation

/-!
# Plans

An operation is planned before anything is sent. The plan is either finished, because the answer is
known without a server, or it is one write or one read, together with what its reply means. Planning
takes new identifiers from their source and does nothing else.
-/

namespace DocQuery

/-- What is left to do for an operation with answers in `α`. -/
inductive Plan (α : Type) where
  /-- Nothing is to be sent. -/
  | done (answer : Except Fault α)
  /-- A write, and the identifiers to be kept once it has succeeded. -/
  | write (write : Write) (ids : Option InsertedIds) (answer : WriteResult → α)
  /-- A read with the given options. -/
  | read (options : Options) (answer : List Document → α)

/-- Why nothing can be sent to a namespace. -/
def Namespace.fault? (target : Namespace) : Option Fault :=
  if !target.hasDatabase then some (.missingDatabase target.text)
  else if !target.hasCollection then some (.missingCollection target.text)
  else none

namespace Session

variable {τ : Type}

/-- A plan that is made only if the collection of the session is known. -/
def onTarget {α : Type} (session : Session) (plan : StateM τ (Plan α)) : StateM τ (Plan α) :=
  match session.target.fault? with
  | some fault => pure (.done (.error fault))
  | none => plan

/-- An identifier as it is handed out. -/
def present (session : Session) (codec : Codec τ) (id : Value) : Value :=
  if session.options.idsAsText then .string (codec.toText id) else id

/-- The document that is stored for a raw one, behind its identifier. Nothing is stored for a
document without fields. -/
def stored? (key : PrimaryKey τ) (raw : Document) : StateM τ (Option (Value × Document)) := do
  match ← key.canonicalInsert raw with
  | .error _ => return none
  | .ok document => some <$> BulkWrite.identify key.codec document

/-- Inserts one document. The answer is made of the counters and the identifier. -/
def planInsert {α : Type} (session : Session) (key : PrimaryKey τ) (raw : Document)
    (answer : WriteResult → Value → α) : StateM τ (Plan α) :=
  session.onTarget do
    match ← stored? key raw with
    | none => return .done (.error .emptyDocument)
    | some (id, document) =>
      let id := session.present key.codec id
      return .write (.insert [document]) (some (.one id)) fun result => answer result id

/-- Inserts several documents; those without fields are left out. -/
def planInsertAll (session : Session) (key : PrimaryKey τ) (raws : List Document) :
    StateM τ (Plan InsertedMany) :=
  session.onTarget do
    let all := (← raws.mapM (stored? key)).filterMap id
    if all.isEmpty then
      return .done (.error .emptyDocument)
    else
      let ids := all.map fun entry => session.present key.codec entry.1
      return .write (.insert (all.map Prod.snd)) (some (.many ids)) fun result =>
        ⟨result.inserted, ids⟩

def justOne (session : Session) : Bool :=
  session.options.limit = some 1

def planUpdate (session : Session) (key : PrimaryKey τ) (raw : Document) :
    StateM τ (Plan UInt64) :=
  session.onTarget do
    let filter := session.options.filter
    if filter.isEmpty then
      return .done (.error (.missingCondition "update"))
    else
      match ← key.canonicalUpdate raw with
      | .error fault => return .done (.error fault)
      | .ok update =>
        let upsert := session.options.upsert.getD false
        return .write (.update filter update.toDocument (!session.justOne) upsert) none
          WriteResult.matched

def planDelete (session : Session) : StateM τ (Plan UInt64) :=
  session.onTarget do
    let filter := session.options.filter
    if filter.isEmpty then
      return .done (.error (.missingCondition "delete"))
    else
      return .write (.remove filter session.justOne) none WriteResult.deleted

/-- Reads with the options of the session, changed in the given way. -/
def planRead {α : Type} (session : Session) (edits : List Options.Edit)
    (answer : List Document → α) : StateM τ (Plan α) :=
  session.onTarget (return .read (session.options.editAll edits) answer)

/-- The brief form of an update that adds to one field. -/
def incrementOf (field : String) (step : Int64) : Document :=
  .singleton field (.array [.string "$inc", .int64 step])

/-- The rows of a page: the limit, if it is set and lets rows through, or the configured number. -/
def pageLimit (session : Session) (config : Config) : UInt64 :=
  (Options.positive session.options.limit).getD config.pageSize

/-- The rows in front of a page. Pages are counted from one on, and a lower number means the first.
More rows than a word can count are as many as it can. -/
def pageSkip (number : Int64) (limit : UInt64) : UInt64 :=
  .ofNatClamp ((max number.toInt 1 - 1).toNat * limit.toNat)

def projectionOf (key : PrimaryKey τ) (names : String) : Options.Edit :=
  .projection ((Selection.ofList names).projection key.field)

def plan (session : Session) (config : Config) (key : PrimaryKey τ) :
    (operation : Operation) → StateM τ (Plan operation.Answer)
  | .insert raw => session.planInsert key raw fun result _ => result.inserted
  | .insertGetId raw => session.planInsert key raw fun _ id => id
  | .insertAll raws => session.planInsertAll key raws
  | .update raw => session.planUpdate key raw
  | .setField field value => session.planUpdate key (.singleton field value)
  | .increment field step => session.planUpdate key (incrementOf field step)
  | .decrement field step =>
    -- The least signed word has no negation.
    if step = Int64.minValue then
      return .done (.error (.invalidValue
        ("cannot decrement '" ++ field ++ "' by " ++ Text.Numeral.ofInt step.toInt)))
    else session.planUpdate key (incrementOf field (-step))
  | .delete => session.planDelete
  | .select => session.planRead [] id
  | .find => session.planRead [.limit 1] List.head?
  | .value field =>
    let name := Text.trim field
    if name = "" ∨ ',' ∈ name.toList then return .done (.ok none)
    else
      session.planRead [projectionOf key name, .limit 1] fun rows =>
        rows.head?.bind (·.get? name)
  | .column fields =>
    session.planRead [projectionOf key fields] (Column.ofRows (Selection.namesIn fields))
  | .count => session.planRead [.count countLabel] countOfRows
  | .page number =>
    let limit := session.pageLimit config
    session.planRead [.limit limit, .skip (pageSkip number limit)] id

end Session

end DocQuery
