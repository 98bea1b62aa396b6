import AuditDesk.Service.Call
import AuditDesk.Service.Policy
import AuditDesk.Wire

/-!
An analysis from handing in the source to its outcome. A task is watched by asking for its status
once in every interval, each question only after the answer to the one before, and a bounded number of
times. A task that is given up while it may still be alive is released.

A stage names what is waited for. While the answer to the submission, the end of an interval or a
status is waited for, the analysis can be cancelled; it then ends at once, or after releasing the task.
-/
namespace AuditDesk.Service

inductive Stage where
  /-- For the answer to the submission. -/
  | asking
  /-- For the interval before a question to pass; questions count from one. -/
  | waiting (task : String) (attempt : Nat)
  /-- For the status of the task. -/
  | polling (task : String) (attempt : Nat)
  /-- For the task to be released, after which the analysis fails. -/
  | releasing (task : String) (e : PollError)
  | ended (outcome : Except AnalysisError Report)

/-- What happens to an analysis. -/
inductive Event where
  | reply (reply : Reply)
  | elapsed
  | cancelled

namespace Stage

/-- Waits for the next question, or gives up when none is left. -/
def next (policy : PollPolicy) (task : String) (asked : Nat) : Stage :=
  if asked < policy.attempts then .waiting task (asked + 1)
  else .releasing task (.exhausted task asked)

/-- What the service says about a failed task: a text as it is, any other payload as JSON, and the
state where there is no payload. -/
def failureReason (status : TaskStatus) : String :=
  match status.payload with
  | some (.string reason) => reason
  | some v => v.compact
  | none => status.state

/-- The report that a finished task carries. -/
def finished (task : String) (status : TaskStatus) : Except PollError Report :=
  match status.payload with
  | none => .error (.malformedReport task ("state " ++ status.state ++ " carried no result"))
  | some v => (Wire.report.ofValue v).mapError fun failure => .malformedReport task failure.message

/-- The stage after a status has arrived. -/
def reported (policy : PollPolicy) (task : String) (attempt : Nat) :
    Except NetworkError TaskStatus → Stage
  | .error e => .ended (.error (.poll (.transport task attempt e)))
  | .ok status =>
      match status.phase with
      | .pending => next policy task attempt
      | .done => .ended ((finished task status).mapError .poll)
      | .failed => .ended (.error (.poll (.taskFailed task (failureReason status))))

/-- The stage after the submission has been answered. -/
def analyzed (policy : PollPolicy) : Except NetworkError AnalyzeAnswer → Stage
  | .error e => .ended (.error (.network e))
  | .ok (.completed report) => .ended (.ok report)
  | .ok (.task id) => next policy id 0

/-- The stage that an event leads to; nothing where the event cannot happen. -/
def step (policy : PollPolicy) : Stage → Event → Option Stage
  | .asking, .reply (.analyzed answer) => some (analyzed policy answer)
  | .asking, .cancelled => some (.ended (.error .cancelled))
  | .waiting task attempt, .elapsed => some (.polling task attempt)
  | .waiting task _, .cancelled => some (.releasing task (.cancelled task))
  | .polling task attempt, .reply (.status answer) => some (reported policy task attempt answer)
  | .polling task _, .cancelled => some (.releasing task (.cancelled task))
  | .releasing _ e, .reply .released => some (.ended (.error (.poll e)))
  | _, _ => none

/-- Whether a cancellation is noticed in this stage. -/
def heeds : Stage → Bool
  | .asking | .waiting _ _ | .polling _ _ => true
  | .releasing _ _ | .ended _ => false

/-- What brings the next event about. -/
inductive Action where
  | call (c : Call)
  /-- To let so many milliseconds pass. -/
  | sleep (milliseconds : Nat)

def action? (policy : PollPolicy) (request : Request) : Stage → Option Action
  | .asking => some (.call (.analyze request))
  | .waiting _ _ => some (.sleep policy.interval)
  | .polling task _ => some (.call (.status task))
  | .releasing task _ => some (.call (.release task))
  | .ended _ => none

/-- Goes on from a stage until nothing happens any more, which is at most `steps` events away. The
surroundings say what happens in a stage, and may change with it. -/
def carryOn {Surroundings : Type} (policy : PollPolicy)
    (react : Stage → Surroundings → Option Event × Surroundings) :
    Nat → Stage → Surroundings → Stage × Surroundings
  | 0, stage, s => (stage, s)
  | steps + 1, stage, s =>
      let (event, s) := react stage s
      match event.bind (stage.step policy) with
      | some next => carryOn policy react steps next s
      | none => (stage, s)

/-- An upper bound on the events until the end. -/
def remaining (policy : PollPolicy) : Stage → Nat
  | .asking => 2 * policy.attempts + 2
  | .waiting _ attempt => 2 * (policy.attempts - attempt) + 3
  | .polling _ attempt => 2 * (policy.attempts - attempt) + 2
  | .releasing _ _ => 1
  | .ended _ => 0

theorem remaining_next_le (policy : PollPolicy) (task : String) (asked : Nat) :
    (next policy task asked).remaining policy ≤ 2 * (policy.attempts - asked) + 1 := by
  unfold next
  split <;> simp only [remaining] <;> omega

theorem heeds_iff_step_cancelled (policy : PollPolicy) (stage : Stage) :
    stage.heeds = true ↔ (stage.step policy .cancelled).isSome = true := by
  cases stage <;> simp [heeds, step]

/-- A cancellation is noticed once, and what no longer heeds it never does again. -/
theorem not_heeds_of_step {policy : PollPolicy} {stage next : Stage} {event : Event}
    (h : stage.step policy event = some next) (hOver : event = .cancelled ∨ stage.heeds = false) :
    next.heeds = false := by
  unfold step at h
  split at h <;> simp only [Option.some.injEq, reduceCtorEq] at h <;> subst h <;> simp [heeds] at hOver ⊢

/-- Every event brings the end nearer. -/
theorem remaining_step_lt (policy : PollPolicy) {stage next : Stage} {event : Event}
    (h : stage.step policy event = some next) :
    next.remaining policy < stage.remaining policy := by
  unfold step at h
  split at h <;> simp only [Option.some.injEq, reduceCtorEq] at h <;> subst h
  · rename_i answer
    change _ < 2 * policy.attempts + 2
    rcases answer with e | (id | r)
    · exact Nat.succ_pos _
    · exact Nat.lt_succ_of_le (remaining_next_le policy id 0)
    · exact Nat.succ_pos _
  · exact Nat.succ_pos _
  · exact Nat.lt_succ_self _
  · simp only [remaining]; omega
  · rename_i task attempt answer
    change _ < 2 * (policy.attempts - attempt) + 2
    rcases answer with e | status
    · exact Nat.succ_pos _
    · simp only [reported]
      split
      · exact Nat.lt_succ_of_le (remaining_next_le policy task attempt)
      · exact Nat.succ_pos _
      · exact Nat.succ_pos _
  · simp only [remaining]; omega
  · exact Nat.one_pos

end Stage

end AuditDesk.Service
