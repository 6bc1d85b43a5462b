/-!
# Spans of time

A span of time is a count of seconds and a count of nanoseconds that is less than a second.
-/

namespace DocQuery

/-- A span of time that is not negative. -/
structure Duration where
  secs : UInt64
  nanos : UInt32
  nanos_lt : nanos.toNat < 1000000000
deriving DecidableEq, Repr

namespace Duration

def ofSecs (secs : UInt64) : Duration :=
  ⟨secs, 0, by decide⟩

def ofMillis (millis : UInt64) : Duration :=
  ⟨.ofNat (millis.toNat / 1000), .ofNat (millis.toNat % 1000 * 1000000), by
    rw [UInt32.toNat_ofNat']
    exact Nat.lt_of_le_of_lt (Nat.mod_le _ _) (by omega)⟩

/-- The span of seconds and nanoseconds, of which the latter may make up seconds. There is none if
the seconds exceed their word. -/
def carry? (secs : UInt64) (nanos : UInt32) : Option Duration :=
  if secs.toNat + nanos.toNat / 1000000000 < UInt64.size then
    some ⟨.ofNat (secs.toNat + nanos.toNat / 1000000000), .ofNat (nanos.toNat % 1000000000), by
      rw [UInt32.toNat_ofNat']
      exact Nat.lt_of_le_of_lt (Nat.mod_le _ _) (by omega)⟩
  else none

end Duration

end DocQuery
