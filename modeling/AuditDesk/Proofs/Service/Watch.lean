import AuditDesk.Service.Submission

/-! Watching a task against any stream of answers. The service here answers the status questions in the
order of the stream and does nothing else, so it also shows what was asked of it and where the watch
stopped of its own accord. -/
namespace AuditDesk.Service

/-- The answers to the status questions, counted from one, and what has been done so far. -/
structure Tape where
  answers : Nat → Except NetworkError TaskStatus
  asked : Nat
  diary : List Stage.Action

namespace Tape

/-- Every pause ends and every status question is answered. Nothing else happens. -/
def react (policy : PollPolicy) (request : Request) (stage : Stage) (t : Tape) :
    Option Event × Tape :=
  match stage.action? policy request with
  | some (.sleep milliseconds) =>
      (some .elapsed, { t with diary := t.diary ++ [.sleep milliseconds] })
  | some (.call (.status task)) =>
      (some (.reply (.status (t.answers (t.asked + 1)))),
        { t with asked := t.asked + 1, diary := t.diary ++ [.call (.status task)] })
  | _ => (none, t)

/-- So many pauses, each followed by a question. -/
def rounds (policy : PollPolicy) (task : String) (count : Nat) : List Stage.Action :=
  (List.replicate count [.sleep policy.interval, .call (.status task)]).flatten

/-- The tape after so many more questions. -/
def advanced (t : Tape) (policy : PollPolicy) (task : String) (count : Nat) : Tape :=
  ⟨t.answers, t.asked + count, t.diary ++ rounds policy task count⟩

theorem advanced_zero (t : Tape) (policy : PollPolicy) (task : String) :
    t.advanced policy task 0 = t := by
  simp [advanced, rounds]

theorem advanced_advanced (t : Tape) (policy : PollPolicy) (task : String) (first second : Nat) :
    (t.advanced policy task first).advanced policy task second =
      t.advanced policy task (first + second) := by
  have hRounds : rounds policy task first ++ rounds policy task second =
      rounds policy task (first + second) := by
    simp only [rounds]
    rw [← List.flatten_append, List.replicate_append_replicate]
  simp only [advanced, List.append_assoc, hRounds, Nat.add_assoc]

end Tape

/-- What watching a task has come to; nothing while the task is being watched. -/
def Stage.verdict? : Stage → Option (Except PollError Report)
  | .releasing _ e => some (.error e)
  | .ended (.ok report) => some (.ok report)
  | .ended (.error (.poll e)) => some (.error e)
  | _ => none

/-- The service takes the task for one that still runs. -/
def StillPending (answer : Except NetworkError TaskStatus) : Prop :=
  ∃ status, answer = .ok status ∧ Text.asciiUpper (Text.trim status.state) = "PENDING"

/-- The outcome that the answer to question number `attempt` calls for when the task is not pending. -/
structure Judges (task : String) (attempt : Nat) (answer : Except NetworkError TaskStatus)
    (outcome : Except PollError Report) : Prop where
  transport : ∀ e, answer = .error e → outcome = .error (.transport task attempt e)
  /-- The service gave up, for a reason that it states in the payload or else in the state. -/
  gaveUp : ∀ status, answer = .ok status →
    Text.asciiUpper (Text.trim status.state) ∈ ["FAILURE", "FAILED", "ERROR", "REVOKED"] →
    (∀ reason, status.payload = some (.string reason) →
      outcome = .error (.taskFailed task reason)) ∧
    (∀ v, status.payload = some v → (∀ reason, v ≠ .string reason) →
      outcome = .error (.taskFailed task v.compact)) ∧
    (status.payload = none → outcome = .error (.taskFailed task status.state))
  /-- Any other state is taken for the end of a successful task. -/
  finished : ∀ status, answer = .ok status →
    Text.asciiUpper (Text.trim status.state) ∉ ["FAILURE", "FAILED", "ERROR", "REVOKED"] →
    (∀ v report, status.payload = some v → Wire.report.ofValue v = .ok report →
      outcome = .ok report) ∧
    (∀ v failure, status.payload = some v → Wire.report.ofValue v = .error failure →
      outcome = .error (.malformedReport task failure.message)) ∧
    (status.payload = none →
      outcome = .error (.malformedReport task ("state " ++ status.state ++ " carried no result")))

namespace Stage

variable (policy : PollPolicy) (request : Request) (task : String)

theorem ofState_eq_pending_iff (state : String) :
    TaskPhase.ofState state = .pending ↔ Text.asciiUpper (Text.trim state) = "PENDING" := by
  unfold TaskPhase.ofState
  split <;> simp_all

theorem ofState_eq_failed_iff (state : String) :
    TaskPhase.ofState state = .failed ↔
      Text.asciiUpper (Text.trim state) ∈ ["FAILURE", "FAILED", "ERROR", "REVOKED"] := by
  unfold TaskPhase.ofState
  split <;> simp_all

theorem carryOn_settled {stage : Stage} {t : Tape} (steps : Nat)
    (h : Tape.react policy request stage t = (none, t)) :
    carryOn policy (Tape.react policy request) steps stage t = (stage, t) := by
  cases steps with
  | zero => rfl
  | succ steps => simp only [carryOn, h, Option.bind_none]

theorem carryOn_round (steps asked : Nat) (t : Tape) :
    carryOn policy (Tape.react policy request) (steps + 2) (.waiting task (asked + 1)) t =
      carryOn policy (Tape.react policy request) steps
        (reported policy task (asked + 1) (t.answers (t.asked + 1))) (t.advanced policy task 1) := by
  simp only [carryOn, Tape.react, action?, step, Option.bind_some, Tape.advanced, Tape.rounds,
    List.replicate_one, List.flatten_cons, List.flatten_nil, List.append_assoc, List.append_nil,
    List.cons_append, List.nil_append]

theorem reported_of_pending (attempt : Nat) {answer : Except NetworkError TaskStatus}
    (h : StillPending answer) : reported policy task attempt answer = next policy task attempt := by
  obtain ⟨status, rfl, hState⟩ := h
  have hPhase : status.phase = .pending := (ofState_eq_pending_iff _).mpr hState
  simp only [reported, hPhase]

/-- As long as the task is pending, every round leads to the next. -/
theorem carryOn_pending (t : Tape) (count : Nat) :
    ∀ steps, t.asked + count ≤ policy.attempts →
      (∀ n, n < count → StillPending (t.answers (t.asked + n + 1))) →
      carryOn policy (Tape.react policy request) (steps + 2 * count) (next policy task t.asked) t =
        carryOn policy (Tape.react policy request) steps (next policy task (t.asked + count))
          (t.advanced policy task count) := by
  induction count with
  | zero =>
      intro steps _ _
      rw [Tape.advanced_zero]
      rfl
  | succ count ih =>
      intro steps hLeft hPending
      have hMore : t.asked + count < policy.attempts := by omega
      have hNext : next policy task (t.asked + count) = .waiting task (t.asked + count + 1) :=
        if_pos hMore
      calc carryOn policy (Tape.react policy request) (steps + 2 * (count + 1))
              (next policy task t.asked) t
          = carryOn policy (Tape.react policy request) (steps + 2)
              (.waiting task (t.asked + count + 1)) (t.advanced policy task count) := by
            rw [show steps + 2 * (count + 1) = steps + 2 + 2 * count by omega, ← hNext]
            exact ih (steps + 2) (Nat.le_of_lt hMore) fun n hn => hPending n (by omega)
        _ = carryOn policy (Tape.react policy request) steps
              (next policy task (t.asked + (count + 1))) (t.advanced policy task (count + 1)) := by
            rw [carryOn_round, Tape.advanced_advanced]
            exact congrArg (carryOn _ _ steps · _)
              (reported_of_pending policy task _ (hPending count (Nat.lt_succ_self count)))

/-- The watch over a task from before the first question. -/
def watched (answers : Nat → Except NetworkError TaskStatus) : Stage × Tape :=
  carryOn policy (Tape.react policy request) ((next policy task 0).remaining policy)
    (next policy task 0) ⟨answers, 0, []⟩

theorem remaining_next_zero : (next policy task 0).remaining policy = 2 * policy.attempts + 1 := by
  unfold next
  split <;> simp only [remaining] <;> omega

theorem finished_judges {attempt : Nat} {status : TaskStatus} (hPhase : status.phase = .done) :
    Judges task attempt (.ok status) (finished task status) := by
  have hState : Text.asciiUpper (Text.trim status.state) ∉
      ["FAILURE", "FAILED", "ERROR", "REVOKED"] := by
    rw [← ofState_eq_failed_iff, ← TaskStatus.phase, hPhase]
    decide
  refine ⟨?_, ?_, ?_⟩
  · rintro _ ⟨⟩
  · rintro _ ⟨⟩ hFailed
    exact absurd hFailed hState
  · rintro _ ⟨⟩ _
    have hFinished : ∀ v, status.payload = some v → finished task status =
        (Wire.report.ofValue v).mapError fun failure => .malformedReport task failure.message := by
      intro v hPayload
      simp only [finished, hPayload]
    refine ⟨fun v report hPayload hReport => ?_, fun v failure hPayload hFailure => ?_, fun hNone => ?_⟩
    · rw [hFinished v hPayload, hReport]
      rfl
    · rw [hFinished v hPayload, hFailure]
      rfl
    · simp only [finished, hNone]

theorem failed_judges {attempt : Nat} {status : TaskStatus} (hPhase : status.phase = .failed) :
    Judges task attempt (.ok status) (.error (.taskFailed task (failureReason status))) := by
  refine ⟨?_, ?_, ?_⟩
  · rintro _ ⟨⟩
  · rintro _ ⟨⟩ _
    refine ⟨fun reason hPayload => ?_, fun v hPayload hText => ?_, fun hNone => ?_⟩
    · simp only [failureReason, hPayload]
    · cases v with
      | string reason => exact absurd rfl (hText reason)
      | _ => simp only [failureReason, hPayload]
    · simp only [failureReason, hNone]
  · rintro _ ⟨⟩ hFailed
    exact absurd ((ofState_eq_failed_iff _).mp hPhase) hFailed

/-- An answer other than pending ends the watch with the outcome it calls for. -/
theorem reported_of_not_pending (attempt : Nat) {answer : Except NetworkError TaskStatus}
    (h : ¬ StillPending answer) :
    ∃ outcome : Except PollError Report,
      reported policy task attempt answer = .ended (outcome.mapError .poll) ∧
        Judges task attempt answer outcome := by
  cases answer with
  | error e =>
      refine ⟨.error (.transport task attempt e), rfl, ⟨?_, ?_, ?_⟩⟩
      · rintro _ ⟨⟩
        rfl
      · rintro _ ⟨⟩
      · rintro _ ⟨⟩
  | ok status =>
      cases hPhase : status.phase with
      | pending => exact absurd ⟨status, rfl, (ofState_eq_pending_iff _).mp hPhase⟩ h
      | done =>
          exact ⟨finished task status, by simp only [reported, hPhase], finished_judges task hPhase⟩
      | failed =>
          refine ⟨_, ?_, failed_judges task hPhase⟩
          simp only [reported, hPhase]
          rfl

theorem verdict_ended (outcome : Except PollError Report) :
    (ended (outcome.mapError .poll)).verdict? = some outcome := by
  cases outcome <;> rfl

theorem watched_of_answer {answers : Nat → Except NetworkError TaskStatus} {count : Nat}
    {outcome : Except PollError Report} (hLast : count < policy.attempts)
    (hBefore : ∀ n, n < count → StillPending (answers (n + 1)))
    (hReported : reported policy task (count + 1) (answers (count + 1)) =
      .ended (outcome.mapError .poll)) :
    watched policy request task answers =
      (.ended (outcome.mapError .poll),
        Tape.advanced ⟨answers, 0, []⟩ policy task (count + 1)) := by
  have hNext : next policy task count = .waiting task (count + 1) := if_pos hLast
  have hSteps : (next policy task 0).remaining policy =
      2 * (policy.attempts - count) - 1 + 2 + 2 * count := by
    rw [remaining_next_zero]
    omega
  have hRounds := carryOn_pending policy request task ⟨answers, 0, []⟩ count
    (2 * (policy.attempts - count) - 1 + 2) (by simpa using Nat.le_of_lt hLast) (by simpa using hBefore)
  have hEnd : reported policy task (count + 1) (answers (0 + count + 1)) =
      .ended (outcome.mapError .poll) := by rw [Nat.zero_add, hReported]
  rw [watched, hSteps, hRounds, Nat.zero_add, hNext, carryOn_round, Tape.advanced_advanced]
  exact (congrArg (carryOn _ _ _ · _) hEnd).trans (carryOn_settled policy request _ rfl)

theorem watched_of_pending {answers : Nat → Except NetworkError TaskStatus}
    (hPending : ∀ n, n < policy.attempts → StillPending (answers (n + 1))) :
    watched policy request task answers =
      (.releasing task (.exhausted task policy.attempts),
        Tape.advanced ⟨answers, 0, []⟩ policy task policy.attempts) := by
  have hNext : next policy task policy.attempts =
      .releasing task (.exhausted task policy.attempts) := if_neg (Nat.lt_irrefl _)
  have hSteps : (next policy task 0).remaining policy = 1 + 2 * policy.attempts := by
    rw [remaining_next_zero]
    omega
  have hRounds := carryOn_pending policy request task ⟨answers, 0, []⟩ policy.attempts 1
    (by simp) (by simpa using hPending)
  rw [watched, hSteps, hRounds, Nat.zero_add, hNext]
  exact carryOn_settled policy request _ rfl

/-- The watch asks until an answer other than pending comes or the questions run out, pausing before
each question, and its outcome is the one that the last answer calls for. -/
theorem watched_outcome (answers : Nat → Except NetworkError TaskStatus) :
    let watch := watched policy request task answers
    (∀ k, 1 ≤ k → k ≤ policy.attempts → (∀ n, 1 ≤ n → n < k → StillPending (answers n)) →
      ¬ StillPending (answers k) →
        watch.2.diary = Tape.rounds policy task k ∧
          ∃ outcome, watch.1.verdict? = some outcome ∧ Judges task k (answers k) outcome) ∧
      ((∀ n, 1 ≤ n → n ≤ policy.attempts → StillPending (answers n)) →
        watch.2.diary = Tape.rounds policy task policy.attempts ∧
          watch.1.verdict? = some (.error (.exhausted task policy.attempts))) := by
  constructor
  · intro k hFirst hLast hBefore hAnswer
    obtain ⟨count, rfl⟩ : ∃ count, k = count + 1 := ⟨k - 1, by omega⟩
    obtain ⟨outcome, hReported, hJudges⟩ :=
      reported_of_not_pending policy task (count + 1) hAnswer
    rw [watched_of_answer policy request task hLast
      (fun n hn => hBefore (n + 1) (by omega) (by omega)) hReported]
    exact ⟨List.nil_append _, outcome, verdict_ended outcome, hJudges⟩
  · intro hPending
    rw [watched_of_pending policy request task
      fun n hn => hPending (n + 1) (by omega) (by omega)]
    exact ⟨List.nil_append _, rfl⟩

end Stage

end AuditDesk.Service
