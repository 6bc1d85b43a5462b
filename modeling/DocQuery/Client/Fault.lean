import DocQuery.Fault

/-!
# What can go wrong in a client

Faults of a client are its own, those of its settings, and those of the driver it is built on, which
come with the driver's own words. A statement that failed in a client is told so in terms of the
statement.
-/

namespace DocQuery

/-- Why a client could not be made, or a request not be answered. -/
inductive ClientFault where
  /-- The driver has failed. -/
  | driver (reason : String)
  /-- A document could not be written as bytes. -/
  | encoding (reason : String)
  /-- A document could not be read from bytes. -/
  | decoding (reason : String)
  | config (reason : String)
  | connection (reason : String)
  /-- The answer to a command has an unexpected shape. -/
  | malformedReply (command reason : String)
deriving DecidableEq, Repr

namespace ClientFault

def message : ClientFault → String
  | driver reason => "mongodb error: " ++ reason
  | encoding reason => "bson error: " ++ reason
  | decoding reason => "bson deserialization error: " ++ reason
  | config reason => "configuration error: " ++ reason
  | connection reason => "connection error: " ++ reason
  | malformedReply command reason => "malformed reply to " ++ command ++ ": " ++ reason

/-- What a statement is told. -/
def toFault : ClientFault → Fault
  | encoding reason => .serialization reason
  | decoding reason => .serialization reason
  | config reason => .config reason
  | other => .executor other.message

end ClientFault

end DocQuery
