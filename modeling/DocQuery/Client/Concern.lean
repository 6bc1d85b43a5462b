import DocQuery.Settings.WriteConcern

/-!
# Write concerns of the driver

The calls of a driver carry write concerns of the driver's own, in which everything may be left
open. A write concern is put into these terms before it goes into a call.
-/

namespace DocQuery

/-- Who has to confirm a write, in the driver's terms. -/
inductive DriverAcknowledgment where
  | nodes (n : UInt32)
  | majority
  | custom (tag : String)
deriving DecidableEq, Repr

/-- What has to happen before a write counts as done, in the driver's terms. What is left open is
up to the server. -/
structure DriverConcern where
  acknowledgment : Option DriverAcknowledgment := none
  timeout : Option Duration := none
  journal : Option Bool := none
deriving DecidableEq, Repr

def Acknowledgment.toDriver : Acknowledgment → DriverAcknowledgment
  | nodes n => .nodes n
  | majority => .majority
  | tagged tag => .custom tag

/-- A write concern in the driver's terms. Who has to confirm is never left open. -/
def WriteConcern.toDriver (concern : WriteConcern) : DriverConcern where
  acknowledgment := some concern.acknowledgment.toDriver
  timeout := concern.timeout
  journal := concern.journal

theorem Acknowledgment.toDriver_injective {a b : Acknowledgment}
    (same : a.toDriver = b.toDriver) : a = b := by
  cases a <;> cases b <;> simp_all [toDriver]

/-- Different write concerns remain different. -/
theorem WriteConcern.toDriver_injective {a b : WriteConcern} (same : a.toDriver = b.toDriver) :
    a = b := by
  obtain ⟨acknowledgment, timeout, journal⟩ := a
  simp only [toDriver, DriverConcern.mk.injEq, Option.some.injEq] at same
  obtain ⟨confirmed, rfl, rfl⟩ := same
  rw [Acknowledgment.toDriver_injective confirmed]

end DocQuery
