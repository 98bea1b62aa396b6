import AuditDesk.Time.Timestamp

/-!
A clock that is started at some instant and counts milliseconds from then on.
-/
namespace AuditDesk

structure Clock where
  start : Timestamp
  /-- Milliseconds since the start. -/
  elapsed : Nat
deriving DecidableEq

namespace Clock

def started (start : Timestamp) : Clock := ⟨start, 0⟩

def now (c : Clock) : Timestamp := c.start.later c.elapsed

/-- The clock so many milliseconds later. -/
def after (c : Clock) (milliseconds : Nat) : Clock := { c with elapsed := c.elapsed + milliseconds }

end Clock

end AuditDesk
