/-!
How patiently the tasks of the analysis service are watched.
-/
namespace AuditDesk

/-- How often a task is asked for and how many times at most. -/
structure PollPolicy where
  /-- Milliseconds before each question. -/
  interval : Nat
  attempts : Nat
deriving DecidableEq

def PollPolicy.standard : PollPolicy := ⟨2000, 150⟩

end AuditDesk
