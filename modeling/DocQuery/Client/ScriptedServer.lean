import DocQuery.Client.Driver

/-!
# A scripted server

A scripted server answers driver calls from a list of replies, one after another, and keeps the
calls it has seen. A server that cannot be reached sees no call, and every call to it fails. About
failures nothing is said.
-/

namespace DocQuery

/-- A reply that is laid out for a call. -/
inductive ScriptedReply where
  | updated (reply : UpdateReply)
  | deleted (count : UInt64)
  /-- Rows in the portions in which they are fetched. -/
  | batches (batches : List (List Document))
  | document (reply : Document)
  /-- The call fails. -/
  | failure

structure ScriptedServer where
  reachable : Bool := true
  replies : List ScriptedReply := []
  seen : List Call := []

namespace ScriptedServer

def fault : ClientFault := .driver ""

/-- What a call is answered with where nothing is laid out for it. -/
def unscripted : (call : Call) → call.Reply
  | .insertMany _ documents _ _ => .ofNat documents.length
  | .update .. => ({} : UpdateReply)
  | .delete .. => (0 : UInt64)
  | .aggregate .. => ([] : Cursor)
  | .runCommand .. => (.singleton "ok" (.int32 1) : Document)

/-- What a laid out reply means for a call. -/
def scripted : (call : Call) → ScriptedReply → Except ClientFault call.Reply
  | _, .failure => .error fault
  | .update .., .updated reply => .ok reply
  | .delete .., .deleted count => .ok count
  | .aggregate .., .batches batches => .ok (batches.map .ok)
  | .runCommand .., .document reply => .ok reply
  | call, _ => .ok (unscripted call)

/-- Whether a call takes the next reply. An insert succeeds by itself, and takes a failure only. -/
def takes : Call → ScriptedReply → Bool
  | .insertMany .., .failure => true
  | .insertMany .., _ => false
  | _, _ => true

def answer (call : Call) : StateM ScriptedServer (Except ClientFault call.Reply) := fun server =>
  if !server.reachable then (.error fault, server)
  else
    let server := { server with seen := server.seen ++ [call] }
    match server.replies with
    | reply :: replies =>
      if takes call reply then (scripted call reply, { server with replies })
      else (.ok (unscripted call), server)
    | [] => (.ok (unscripted call), server)

def driver : Driver ScriptedServer where
  answer := answer

end ScriptedServer

end DocQuery
