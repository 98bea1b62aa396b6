import AuditDesk.Service.Call
import AuditDesk.Wire

/-!
A simulated service for work without a network. Every source has the same finding, which is reported
after a delay; either at once with the submission or, when tasks are simulated, once the task has been
asked for a number of times.
-/
namespace AuditDesk.Service

/-- A task that has not been reported as finished yet. -/
structure SimulatedTask where
  /-- How many more questions find it pending. -/
  pendingPolls : Nat
  report : Report
deriving DecidableEq

structure Simulation where
  /-- Milliseconds before a submission is answered. -/
  delay : Nat
  /-- How many questions find a task pending; without a number submissions are answered directly. -/
  pendingPolls : Option Nat
  tasks : List (String × SimulatedTask)
  /-- The finished reports, newest first. -/
  history : List Report
  /-- The number of identifiers handed out. -/
  issued : Nat
deriving DecidableEq

namespace Simulation

def standardDelay : Nat := 2000

def start (delay : Nat) (pendingPolls : Option Nat) : Simulation := ⟨delay, pendingPolls, [], [], 0⟩

/-- The `n`-th identifier, in the form of a random one. -/
def identifier (n : Nat) : String :=
  let digits := toString n
  "00000000-0000-4000-8000-" ++ Text.repeated (12 - digits.length) '0' ++ digits

/-- What every simulated analysis finds. -/
def findingName : String := "Potential Reentrancy"

def describe (language : Language) : String :=
  "Simulated analysis of " ++ language.name ++
    " source: an external call is made before state is updated."

/-- The report on a source. -/
def report (id : String) (now : Timestamp) (request : Request) : Report where
  id := some (.text id)
  createdAt := some now
  contractCode := some request.code
  findings := [⟨findingName, describe request.language⟩]

/-- Answers a submission once its delay is over. -/
def analyze (identifiers : Nat → String) (s : Simulation) (now : Timestamp) (request : Request) :
    AnalyzeAnswer × Simulation :=
  let made := report (identifiers s.issued) now request
  match s.pendingPolls with
  | none =>
      (.completed made, { s with history := made :: s.history, issued := s.issued + 1 })
  | some polls =>
      let id := identifiers (s.issued + 1)
      (.task id, { s with tasks := (id, ⟨polls, made⟩) :: s.tasks, issued := s.issued + 2 })

def forget (s : Simulation) (task : String) : Simulation :=
  { s with tasks := s.tasks.filter fun entry => entry.1 ≠ task }

/-- Forgets a task and gives it out, if it is there. -/
def remove (s : Simulation) (task : String) : Option SimulatedTask × Simulation :=
  (s.tasks.lookup task, s.forget task)

/-- The reply about a task that is not known, or not any more. -/
def unknownTask (task : String) : NetworkError :=
  .status ("simulated://result/" ++ task) 404 "unknown task"

/-- The reply about a task that was found, but is not there when it is to be removed. -/
def disappearedTask (task : String) : NetworkError := .unavailable ("task " ++ task ++ " disappeared")

/-- Counts down a task that is still pending, and removes and reports one that is not. -/
def status (s : Simulation) (task : String) : Except NetworkError TaskStatus × Simulation :=
  match s.tasks.lookup task with
  | none => (.error (unknownTask task), s)
  | some ⟨left + 1, report⟩ =>
      (.ok ⟨"PENDING", none⟩,
        { s with tasks := s.tasks.map fun entry =>
            if entry.1 = task then (entry.1, ⟨left, report⟩) else entry })
  | some ⟨0, _⟩ =>
      let (removed, s) := s.remove task
      match removed with
      | none => (.error (disappearedTask task), s)
      | some finished =>
          (.ok ⟨"SUCCESS", some (Wire.ofReport finished.report).settle⟩,
            { s with history := finished.report :: s.history })

/-- Files are written by a real service only. -/
def renderRefusal (format : ExportFormat) : NetworkError :=
  .unavailable ("remote " ++ format.name ++ " export needs a running analysis service")

/-- Replies to a call, once the delay of a submission is over. -/
def reply (identifiers : Nat → String) (s : Simulation) (now : Timestamp) : Call → Reply × Simulation
  | .analyze request =>
      let (answer, s) := s.analyze identifiers now request
      (.analyzed (.ok answer), s)
  | .status task =>
      let (answer, s) := s.status task
      (.status answer, s)
  | .history => (.history (.ok s.history), s)
  | .render format _ => (.rendered (.error (renderRefusal format)), s)
  | .release task => (.released, s.forget task)

end Simulation

end AuditDesk.Service
