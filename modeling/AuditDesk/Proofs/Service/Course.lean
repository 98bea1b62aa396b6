import AuditDesk.Service.Submission

/-! What is done in the course of a submission and what happens to it, written down in order. The diary has
one of a few forms, which the stage alone tells apart: the submission and its answer, then one round after
the other that ends with a pending task, then the end. A course under a token is one in which the token is
looked at before anything is begun and before anything else can happen. -/
namespace AuditDesk.Service

/-- An entry of a diary: an action has begun, or an event has come. -/
inductive Entry where
  | began (action : Stage.Action)
  | met (event : Event)

namespace Entry

def call? : Entry → Option Call
  | .began (.call call) => some call
  | _ => none

/-- Whether a question for the status has been answered. -/
def isStatus : Entry → Bool
  | .met (.reply (.status _)) => true
  | _ => false

end Entry

/-- A course of things. Whatever a state needs is begun, and an event leads on to the next state; only a
cancellation does not wait for the beginning. The flag says whether the action has begun. -/
inductive Course {State : Type} (action? : State → Option Stage.Action)
    (step : State → Event → Option State) (first : State) : List Entry → State → Bool → Prop
  | start : Course action? step first [] first false
  | begins {diary : List Entry} {state : State} {action : Stage.Action}
      (hBefore : Course action? step first diary state false) (hAction : action? state = some action) :
      Course action? step first (diary ++ [.began action]) state true
  | meets {diary : List Entry} {state next : State} {begun : Bool} {event : Event}
      (hBefore : Course action? step first diary state begun) (hMeet : event = .cancelled ∨ begun = true)
      (hStep : step state event = some next) :
      Course action? step first (diary ++ [.met event]) next false

namespace Diary

/-- The calls that have been made. -/
def calls (diary : List Entry) : List Call := diary.filterMap Entry.call?

/-- How many questions for the status have been answered. -/
def reports (diary : List Entry) : Nat := diary.countP Entry.isStatus

/-- The submission has been answered. -/
def Answered (diary : List Entry) (answer : Except NetworkError AnalyzeAnswer) : Prop :=
  .met (.reply (.analyzed answer)) ∈ diary

/-- Whether a token has fired that fires once so many entries have been written, or never. -/
def fired (fires : Option Nat) (diary : List Entry) : Bool := fires.any (· ≤ diary.length)

theorem calls_append (first second : List Entry) :
    calls (first ++ second) = calls first ++ calls second := List.filterMap_append

theorem reports_append (first second : List Entry) :
    reports (first ++ second) = reports first + reports second := List.countP_append

/-- A token that has fired stays so. -/
theorem fired_append {fires : Option Nat} {diary : List Entry} (h : fired fires diary = true)
    (rest : List Entry) : fired fires (diary ++ rest) = true := by
  cases fires with
  | none => cases h
  | some moment =>
      have hMoment : moment ≤ diary.length := of_decide_eq_true h
      refine decide_eq_true ?_
      rw [List.length_append]
      exact Nat.le_add_right_of_le hMoment

theorem eq_zero_of_fired_nil {fires : Option Nat} (h : fired fires [] = true) : fires = some 0 := by
  cases fires with
  | none => cases h
  | some moment =>
      have hMoment : moment ≤ 0 := of_decide_eq_true h
      rw [Nat.le_zero.mp hMoment]

variable (policy : PollPolicy) (request : Request) (task : String)

/-- What goes before the answer to a question. -/
def question : List Entry :=
  [.began (.sleep policy.interval), .met .elapsed, .began (.call (.status task))]

def round (status : TaskStatus) : List Entry :=
  question policy task ++ [.met (.reply (.status (.ok status)))]

/-- The diary of a submission that has got a task, and has been told these states of it. -/
def watching (statuses : List TaskStatus) : List Entry :=
  [.began (.call (.analyze request)), .met (.reply (.analyzed (.ok (.task task))))] ++
    statuses.flatMap (round policy task)

theorem watching_concat (statuses : List TaskStatus) (status : TaskStatus) :
    watching policy request task (statuses ++ [status]) =
      watching policy request task statuses ++ round policy task status := by
  simp only [watching, List.flatMap_append, List.flatMap_singleton, List.append_assoc]

/-- A round is a question. -/
theorem calls_watching (statuses : List TaskStatus) :
    calls (watching policy request task statuses) =
      .analyze request :: List.replicate statuses.length (.status task) := by
  have hRounds : calls (statuses.flatMap (round policy task)) =
      List.replicate statuses.length (.status task) := by
    induction statuses with
    | nil => rfl
    | cons status statuses ih =>
        rw [List.flatMap_cons, calls_append, ih, List.length_cons, List.replicate_succ]
        rfl
  rw [watching, calls_append, hRounds]
  rfl

/-- As many states have been reported as rounds are over, when nothing has been answered since. -/
theorem reports_watching_append (statuses : List TaskStatus) {rest : List Entry}
    (hRest : ∀ reply, .met (.reply reply) ∉ rest) :
    reports (watching policy request task statuses ++ rest) = statuses.length := by
  have hRounds : reports (statuses.flatMap (round policy task)) = statuses.length := by
    induction statuses with
    | nil => rfl
    | cons status statuses ih =>
        rw [List.flatMap_cons, reports_append, ih, List.length_cons, Nat.add_comm]
        rfl
  have hNone : reports rest = 0 := by
    refine List.countP_eq_zero.mpr fun entry hMem hStatus => ?_
    unfold Entry.isStatus at hStatus
    split at hStatus
    · exact hRest _ hMem
    · cases hStatus
  rw [watching, reports_append, reports_append, hRounds, hNone, Nat.add_zero]
  exact Nat.zero_add _

theorem answered_watching_append (statuses : List TaskStatus) {rest : List Entry}
    (hRest : ∀ answer, ¬ Answered rest answer) (answer : Except NetworkError AnalyzeAnswer) :
    Answered (watching policy request task statuses ++ rest) answer ↔ answer = .ok (.task task) := by
  have hRounds : .met (.reply (.analyzed answer)) ∉ statuses.flatMap (round policy task) := by
    simp [round, question]
  have hNone : .met (.reply (.analyzed answer)) ∉ rest := hRest answer
  simp [Answered, watching, hRounds, hNone]

theorem no_reply_of_prefix_question {rest : List Entry} (hRest : rest <+: question policy task)
    (reply : Reply) : .met (.reply reply) ∉ rest := by
  intro hMem
  have hAll := hRest.subset hMem
  simp [question] at hAll

end Diary

/-- A course under a token, which is looked at before each entry. A state that heeds the token is cancelled
once the token has fired, and does nothing else; otherwise the course goes on. -/
inductive CancellableCourse {State : Type} (action? : State → Option Stage.Action)
    (step : State → Event → Option State) (heeds : State → Bool) (fires : Option Nat) (first : State) :
    List Entry → State → Bool → Prop
  | start : CancellableCourse action? step heeds fires first [] first false
  | begins {diary : List Entry} {state : State} {action : Stage.Action}
      (hBefore : CancellableCourse action? step heeds fires first diary state false)
      (hOn : (heeds state && Diary.fired fires diary) = false) (hAction : action? state = some action) :
      CancellableCourse action? step heeds fires first (diary ++ [.began action]) state true
  | meets {diary : List Entry} {state next : State} {begun : Bool} {event : Event}
      (hBefore : CancellableCourse action? step heeds fires first diary state begun)
      (hMeet : event = .cancelled ∨ begun = true)
      (hToken : event = .cancelled ↔ (heeds state && Diary.fired fires diary) = true)
      (hStep : step state event = some next) :
      CancellableCourse action? step heeds fires first (diary ++ [.met event]) next false

namespace CancellableCourse

open Diary

variable {State : Type} {action? : State → Option Stage.Action} {step : State → Event → Option State}
  {heeds : State → Bool} {fires : Option Nat} {first state : State} {diary : List Entry} {begun : Bool}

theorem course (h : CancellableCourse action? step heeds fires first diary state begun) :
    Course action? step first diary state begun := by
  induction h with
  | start => exact .start
  | begins _ _ hAction ih => exact ih.begins hAction
  | meets _ hMeet _ hStep ih => exact ih.meets hMeet hStep

/-- What has been done before a token fires is what would have been done without it. -/
theorem of_never (h : CancellableCourse action? step heeds none first diary state begun) {moment : Nat}
    (hNow : diary.length ≤ moment) :
    CancellableCourse action? step heeds (some moment) first diary state begun := by
  have hEarlier : ∀ {before : List Entry} {entry : Entry}, (before ++ [entry]).length ≤ moment →
      before.length ≤ moment ∧ fired (some moment) before = fired none before := by
    intro before entry hLater
    rw [List.length_append, List.length_singleton] at hLater
    exact ⟨Nat.le_of_succ_le hLater, decide_eq_false (Nat.not_le.mpr hLater)⟩
  induction h with
  | start => exact .start
  | begins _ hOn hAction ih =>
      obtain ⟨hBefore, hUnfired⟩ := hEarlier hNow
      exact (ih hBefore).begins (hUnfired ▸ hOn) hAction
  | meets _ hMeet hToken hStep ih =>
      obtain ⟨hBefore, hUnfired⟩ := hEarlier hNow
      exact (ih hBefore).meets hMeet (hUnfired ▸ hToken) hStep

theorem idle_of_nil (h : CancellableCourse action? step heeds fires first [] state begun) : begun = false := by
  generalize hNil : ([] : List Entry) = diary at h
  cases h with
  | start => rfl
  | begins => exact absurd hNil.symm (List.concat_ne_nil _ _)
  | meets => rfl

/-- No course is left out: wherever one is cancelled there is a token that has just fired. -/
theorem exists_of_course
    (hHeeds : ∀ {state next}, step state .cancelled = some next → heeds state = true)
    (hOver : ∀ {state next event}, step state event = some next →
      event = .cancelled ∨ heeds state = false → heeds next = false)
    (h : Course action? step first diary state begun) :
    ∃ fires, CancellableCourse action? step heeds fires first diary state begun ∧
      (heeds state = true → fires = none) := by
  induction h with
  | start => exact ⟨none, .start, fun _ => rfl⟩
  | @begins diary state action _ hAction ih =>
      obtain ⟨fires, hBefore, hUnfired⟩ := ih
      refine ⟨fires, hBefore.begins ?_ hAction, hUnfired⟩
      cases hState : heeds state with
      | false => rfl
      | true => rw [hUnfired hState]; rfl
  | @meets diary state next begun event _ hMeet hStep ih =>
      obtain ⟨fires, hBefore, hUnfired⟩ := ih
      cases hState : heeds state with
      | false =>
          have hOther : event ≠ .cancelled := by
            rintro rfl
            rw [hHeeds hStep] at hState
            cases hState
          refine ⟨fires, hBefore.meets hMeet (iff_of_false hOther (by rw [hState]; nofun)) hStep, fun hNext => ?_⟩
          rw [hOver hStep (.inr hState)] at hNext
          cases hNext
      | true =>
          -- As long as the state heeds it, the token has not fired, so it may as well fire just now.
          obtain rfl := hUnfired hState
          by_cases hCancelled : event = .cancelled
          · have hStops : (heeds state && fired (some diary.length) diary) = true :=
              Bool.and_eq_true_iff.mpr ⟨hState, decide_eq_true (Nat.le_refl _)⟩
            refine ⟨some diary.length, (hBefore.of_never (Nat.le_refl _)).meets hMeet
              (iff_of_true hCancelled hStops) hStep, fun hNext => ?_⟩
            rw [hOver hStep (.inl hCancelled)] at hNext
            cases hNext
          · have hGoesOn : ¬ (heeds state && fired none diary) = true := fun hStops =>
              nomatch (Bool.and_eq_true_iff.mp hStops).2
            exact ⟨none, hBefore.meets hMeet (iff_of_false hCancelled hGoesOn) hStep, fun _ => rfl⟩

/-- Something is begun before anything happens, unless the token has fired before. -/
theorem not_met_first (h : CancellableCourse action? step heeds fires first diary state begun)
    (hFires : fires ≠ some 0) {event : Event} {rest : List Entry} : diary ≠ .met event :: rest := by
  induction h generalizing rest with
  | start => nofun
  | @begins diary _ action _ _ _ ih =>
      intro hFirst
      cases diary with
      | nil => cases hFirst
      | cons entry diary => exact ih (congrArg (· :: diary) (List.cons.inj hFirst).1)
  | @meets diary _ _ begun other hBefore hMeet hToken _ ih =>
      intro hFirst
      cases diary with
      | nil =>
          -- Where nothing has begun only a cancellation can happen, and that takes a token that has fired.
          have hCancelled : other = .cancelled :=
            hMeet.resolve_right (Bool.eq_false_iff.mp hBefore.idle_of_nil)
          have hFired := (Bool.and_eq_true_iff.mp (hToken.mp hCancelled)).2
          exact hFires (eq_zero_of_fired_nil hFired)
      | cons entry diary => exact ih (congrArg (· :: diary) (List.cons.inj hFirst).1)

/-- When the token has fired before anything is begun, nothing ever is, and only the cancellation
happens. -/
theorem of_fired_first (h : CancellableCourse action? step heeds (some 0) first diary state begun)
    (hHeeds : heeds first = true) {last : State} (hLast : step first .cancelled = some last)
    (hOver : action? last = none ∧ ∀ event, step last event = none) :
    begun = false ∧ (diary = [] ∧ state = first ∨ diary = [.met .cancelled] ∧ state = last) := by
  have hStops : (heeds first && fired (some 0) []) = true := Bool.and_eq_true_iff.mpr ⟨hHeeds, rfl⟩
  induction h with
  | start => exact ⟨rfl, .inl ⟨rfl, rfl⟩⟩
  | begins _ hOn hAction ih =>
      obtain ⟨-, ⟨rfl, rfl⟩ | ⟨rfl, rfl⟩⟩ := ih
      · rw [hStops] at hOn
        cases hOn
      · rw [hOver.1] at hAction
        cases hAction
  | meets _ _ hToken hStep ih =>
      obtain ⟨-, ⟨rfl, rfl⟩ | ⟨rfl, rfl⟩⟩ := ih
      · obtain rfl := hToken.mpr hStops
        exact ⟨rfl, .inr ⟨rfl, Option.some.inj (hStep.symm.trans hLast)⟩⟩
      · rw [hOver.2] at hStep
        cases hStep

end CancellableCourse

namespace Stage

open Diary

variable (policy : PollPolicy) (request : Request)

/-- A task was pending as often as it was asked for. -/
def AllPending (statuses : List TaskStatus) : Prop := ∀ status ∈ statuses, status.phase = .pending

/-- The diary of a submission that gives up its task, and the error for which it does. -/
inductive GivenUp : List Entry → String → PollError → Prop
  | exhausted (task : String) {statuses : List TaskStatus} (hPending : AllPending statuses)
      (hAll : statuses.length = policy.attempts) :
      GivenUp (watching policy request task statuses) task (.exhausted task policy.attempts)
  | cancelled (task : String) {statuses : List TaskStatus} {rest : List Entry}
      (hPending : AllPending statuses) (hMore : statuses.length < policy.attempts)
      (hRest : rest <+: question policy task) :
      GivenUp (watching policy request task statuses ++ rest ++ [.met .cancelled]) task (.cancelled task)

/-- The diary of a submission that has ended, and its outcome. -/
inductive Ends : List Entry → Except AnalysisError Report → Prop
  | unanswered {rest : List Entry} (hRest : rest <+: [.began (.call (.analyze request))]) :
      Ends (rest ++ [.met .cancelled]) (.error .cancelled)
  | refused (e : NetworkError) :
      Ends [.began (.call (.analyze request)), .met (.reply (.analyzed (.error e)))] (.error (.network e))
  | completed (report : Report) :
      Ends [.began (.call (.analyze request)), .met (.reply (.analyzed (.ok (.completed report))))]
        (.ok report)
  | judged (task : String) {statuses : List TaskStatus} {answer : Except NetworkError TaskStatus}
      {outcome : Except AnalysisError Report} (hPending : AllPending statuses)
      (hMore : statuses.length < policy.attempts)
      (hReported : reported policy task (statuses.length + 1) answer = .ended outcome) :
      Ends (watching policy request task statuses ++ question policy task ++
        [.met (.reply (.status answer))]) outcome
  | released {before : List Entry} {task : String} {e : PollError}
      (hBefore : GivenUp policy request before task e) :
      Ends (before ++ [.began (.call (.release task)), .met (.reply .released)]) (.error (.poll e))

/-- The diary of a submission that has come to a stage. -/
def Account (diary : List Entry) (begun : Bool) : Stage → Prop
  | .asking => diary = if begun then [.began (.call (.analyze request))] else []
  | .waiting task attempt => ∃ statuses, AllPending statuses ∧ attempt = statuses.length + 1 ∧
      attempt ≤ policy.attempts ∧ diary = watching policy request task statuses ++
        (question policy task).take (if begun then 1 else 0)
  | .polling task attempt => ∃ statuses, AllPending statuses ∧ attempt = statuses.length + 1 ∧
      attempt ≤ policy.attempts ∧ diary = watching policy request task statuses ++
        (question policy task).take (if begun then 3 else 2)
  | .releasing task e => ∃ before, GivenUp policy request before task e ∧
      diary = before ++ if begun then [.began (.call (.release task))] else []
  | .ended outcome => Ends policy request diary outcome

variable {policy request}

theorem account_next {task : String} {statuses : List TaskStatus} (hPending : AllPending statuses)
    (hLength : statuses.length ≤ policy.attempts) :
    (next policy task statuses.length).Account policy request
      (watching policy request task statuses) false := by
  unfold next
  split
  · rename_i hMore
    exact ⟨statuses, hPending, rfl, hMore, (List.append_nil _).symm⟩
  · have hAll : statuses.length = policy.attempts := by omega
    refine ⟨_, ?_, (List.append_nil _).symm⟩
    rw [hAll]
    exact .exhausted task hPending hAll

theorem Account.begins {diary : List Entry} {stage : Stage} {action : Action}
    (h : stage.Account policy request diary false) (hAction : stage.action? policy request = some action) :
    stage.Account policy request (diary ++ [.began action]) true := by
  cases stage with
  | asking =>
      obtain rfl : diary = [] := h
      cases hAction
      rfl
  | waiting task attempt =>
      obtain ⟨statuses, hPending, hAttempt, hMore, rfl⟩ := h
      cases hAction
      refine ⟨statuses, hPending, hAttempt, hMore, ?_⟩
      rw [List.append_assoc]
      rfl
  | polling task attempt =>
      obtain ⟨statuses, hPending, hAttempt, hMore, rfl⟩ := h
      cases hAction
      refine ⟨statuses, hPending, hAttempt, hMore, ?_⟩
      rw [List.append_assoc]
      rfl
  | releasing task e =>
      obtain ⟨before, hGivenUp, rfl⟩ := h
      cases hAction
      exact ⟨before, hGivenUp, by rw [List.append_assoc]; rfl⟩
  | ended outcome => cases hAction

/-- While a task is watched, whole rounds are over, and another one may have begun. -/
theorem Account.watching {diary : List Entry} {stage : Stage} {begun : Bool} {task : String} {attempt : Nat}
    (h : stage.Account policy request diary begun)
    (hStage : stage = .waiting task attempt ∨ stage = .polling task attempt) :
    ∃ statuses rest, statuses.length < policy.attempts ∧ rest <+: question policy task ∧
      diary = Diary.watching policy request task statuses ++ rest := by
  obtain rfl | rfl := hStage
  · obtain ⟨statuses, _, rfl, hMore, hDiary⟩ := h
    exact ⟨statuses, _, hMore, List.take_prefix _ _, hDiary⟩
  · obtain ⟨statuses, _, rfl, hMore, hDiary⟩ := h
    exact ⟨statuses, _, hMore, List.take_prefix _ _, hDiary⟩

/-- A task that is being watched can be given up at any time. -/
theorem account_cancelled {task : String} {statuses : List TaskStatus} (hPending : AllPending statuses)
    (hMore : statuses.length + 1 ≤ policy.attempts) (count : Nat) :
    (releasing task (.cancelled task)).Account policy request
      (watching policy request task statuses ++ (question policy task).take count ++ [.met .cancelled])
      false :=
  ⟨_, .cancelled task hPending hMore (List.take_prefix _ _), (List.append_nil _).symm⟩

theorem account_reported {task : String} {statuses : List TaskStatus} (hPending : AllPending statuses)
    (hMore : statuses.length + 1 ≤ policy.attempts) (answer : Except NetworkError TaskStatus) :
    (reported policy task (statuses.length + 1) answer).Account policy request
      (watching policy request task statuses ++ question policy task ++ [.met (.reply (.status answer))])
      false := by
  have hEnds : ∀ outcome, reported policy task (statuses.length + 1) answer = .ended outcome →
      (ended outcome).Account policy request
        (watching policy request task statuses ++ question policy task ++
          [.met (.reply (.status answer))]) false :=
    fun outcome hReported => .judged task hPending hMore hReported
  cases answer with
  | error e => exact hEnds _ rfl
  | ok status =>
      cases hPhase : status.phase with
      | pending =>
          have hLater : AllPending (statuses ++ [status]) := by
            intro other hMem
            rcases List.mem_append.mp hMem with hOld | hNew
            · exact hPending other hOld
            · rw [List.mem_singleton.mp hNew, hPhase]
          have hNext : (next policy task (statuses ++ [status]).length).Account policy request
              (watching policy request task (statuses ++ [status])) false :=
            account_next hLater (by rwa [List.length_append])
          rw [watching_concat, Diary.round, ← List.append_assoc, List.length_append,
            List.length_singleton] at hNext
          simpa only [reported, hPhase] using hNext
      | done =>
          have hReported : reported policy task (statuses.length + 1) (.ok status) =
              .ended ((finished task status).mapError .poll) := by simp only [reported, hPhase]
          rw [hReported]
          exact hEnds _ hReported
      | failed =>
          have hReported : reported policy task (statuses.length + 1) (.ok status) =
              .ended (.error (.poll (.taskFailed task (failureReason status)))) := by
            simp only [reported, hPhase]
          rw [hReported]
          exact hEnds _ hReported

theorem Account.meets {diary : List Entry} {stage next : Stage} {begun : Bool} {event : Event}
    (h : stage.Account policy request diary begun) (hMeet : event = .cancelled ∨ begun = true)
    (hStep : stage.step policy event = some next) :
    next.Account policy request (diary ++ [.met event]) false := by
  unfold step at hStep
  split at hStep <;> simp only [Option.some.injEq, reduceCtorEq] at hStep <;> subst hStep
  · rename_i answer
    obtain rfl : begun = true := hMeet.resolve_left nofun
    obtain rfl : diary = [.began (.call (.analyze request))] := h
    rcases answer with e | (task | report)
    · exact .refused e
    · have hNone : AllPending [] := nofun
      exact account_next hNone (Nat.zero_le _)
    · exact .completed report
  · obtain rfl : diary = if begun then [.began (.call (.analyze request))] else [] := h
    refine .unanswered ?_
    cases begun with
    | true => exact List.prefix_refl _
    | false => exact List.nil_prefix
  · obtain rfl : begun = true := hMeet.resolve_left nofun
    obtain ⟨statuses, hPending, hAttempt, hMore, rfl⟩ := h
    exact ⟨statuses, hPending, hAttempt, hMore, by rw [List.append_assoc]; rfl⟩
  · obtain ⟨statuses, hPending, rfl, hMore, rfl⟩ := h
    exact account_cancelled hPending hMore _
  · obtain rfl : begun = true := hMeet.resolve_left nofun
    obtain ⟨statuses, hPending, rfl, hMore, rfl⟩ := h
    exact account_reported hPending hMore _
  · obtain ⟨statuses, hPending, rfl, hMore, rfl⟩ := h
    exact account_cancelled hPending hMore _
  · obtain rfl : begun = true := hMeet.resolve_left nofun
    obtain ⟨before, hGivenUp, rfl⟩ := h
    rw [List.append_assoc]
    exact .released hGivenUp

end Stage

/-- The course of a submission. -/
abbrev Submitted (policy : PollPolicy) (request : Request) : List Entry → Stage → Bool → Prop :=
  Course (Stage.action? policy request) (Stage.step policy) .asking

/-- The diary of a submission has the form that its stage tells. -/
theorem Submitted.account {policy : PollPolicy} {request : Request} {diary : List Entry} {stage : Stage}
    {begun : Bool} (h : Submitted policy request diary stage begun) :
    stage.Account policy request diary begun := by
  induction h with
  | start => rfl
  | begins _ hAction ih => exact ih.begins hAction
  | meets _ hMeet hStep ih => exact ih.meets hMeet hStep

/-- The course of a submission under a token. -/
abbrev SubmittedUnder (policy : PollPolicy) (request : Request) (fires : Option Nat) :
    List Entry → Stage → Bool → Prop :=
  CancellableCourse (Stage.action? policy request) (Stage.step policy) Stage.heeds fires .asking

theorem SubmittedUnder.account {policy : PollPolicy} {request : Request} {fires : Option Nat}
    {diary : List Entry} {stage : Stage} {begun : Bool}
    (h : SubmittedUnder policy request fires diary stage begun) :
    stage.Account policy request diary begun := Submitted.account h.course

end AuditDesk.Service
