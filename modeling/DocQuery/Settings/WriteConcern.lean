import DocQuery.Settings.Duration

/-!
# Write concerns

A write concern says who has to confirm a write before it counts as done, how long the server waits
for them, and whether the journal has to hold the write.
-/

namespace DocQuery

/-- Who has to confirm a write. -/
inductive Acknowledgment where
  | nodes (n : UInt32)
  | majority
  /-- The members with a tag. -/
  | tagged (tag : String)
deriving DecidableEq, Repr

/-- What has to happen before a write counts as done. -/
structure WriteConcern where
  acknowledgment : Acknowledgment
  timeout : Option Duration := none
  journal : Option Bool := none
deriving DecidableEq, Repr

end DocQuery
