import DocQuery.Executor.Basic

/-!
# A recorder in the place of a server

A recorder keeps every request it receives and answers from what was laid out beforehand: rows for
commands and counters for bulk writes, each used once and in order. Where nothing is laid out, a
command gives no rows, and the counters of a bulk write are those of a server on which each
operation finds one document. The recorder can be told to fail once; the failing request is kept
too, and uses up nothing.
-/

namespace DocQuery

/-- What a recorder has received, and what it is going to answer. -/
structure Recorder where
  /-- The version it says the server has. -/
  version : ServerVersion := default
  received : List Request := []
  rows : List (List Document) := []
  results : List WriteResult := []
  /-- The words with which the next request fails. -/
  failure : Option String := none

namespace Recorder

def layOutRows (recorder : Recorder) (rows : List Document) : Recorder :=
  { recorder with rows := recorder.rows ++ [rows] }

def layOutResult (recorder : Recorder) (result : WriteResult) : Recorder :=
  { recorder with results := recorder.results ++ [result] }

/-- Makes the next request fail. Of several such orders the last one counts. -/
def failOnce (recorder : Recorder) (message : String) : Recorder :=
  { recorder with failure := some message }

/-- What an operation does that finds one document. -/
def derivedCount : WriteOperation → WriteResult
  | .insert _ => { inserted := 1 }
  | .update _ _ _ _ => { matched := 1, modified := 1 }
  | .delete _ _ => { deleted := 1 }

/-- What a bulk write does whose operations find one document each. -/
def derived (bulk : BulkWrite) : WriteResult :=
  bulk.operations.foldl (fun result operation => result + derivedCount operation) default

/-- The reply to a request, from what is laid out first. -/
def reply (recorder : Recorder) : (request : Request) → request.Reply × Recorder
  | .version => (recorder.version, recorder)
  | .bulkWrite bulk =>
    match recorder.results with
    | [] => (derived bulk, recorder)
    | result :: results => (result, { recorder with results })
  | .command _ _ =>
    match recorder.rows with
    | [] => ([], recorder)
    | rows :: rest => (rows, { recorder with rows := rest })

def keep (recorder : Recorder) (request : Request) : Recorder :=
  { recorder with received := recorder.received ++ [request] }

/-- Keeps a request and answers it, or fails if it was told to. -/
def answer (request : Request) : StateM Recorder (Except Fault request.Reply) := fun recorder =>
  match recorder.failure with
  | some message => (.error (.executor message), { recorder.keep request with failure := none })
  | none =>
    let (reply, recorder) := (recorder.keep request).reply request
    (.ok reply, recorder)

def executor : Executor Recorder where
  answer := answer

def timesAsked (recorder : Recorder) : Nat :=
  recorder.received.countP fun
    | .version => true
    | _ => false

@[simp] theorem received_reply (recorder : Recorder) (request : Request) :
    (recorder.reply request).2.received = recorder.received := by
  cases request <;> simp only [reply] <;> split <;> rfl

/-- Every request is kept, whether or not it fails. -/
@[simp] theorem received_answer (request : Request) (recorder : Recorder) :
    (answer request recorder).2.received = recorder.received ++ [request] := by
  unfold answer
  split
  · rfl
  · simp [keep]

end Recorder

end DocQuery
