import AuditDesk.Desk.Worker
import AuditDesk.Proofs.Service.Course

/-! Which calls an analysis makes, and in which order: the submission, the questions about its task, and
then either the history or the release of the task. No call is made again. An analysis whose token has
fired before it begins makes none. -/
namespace AuditDesk

open Service Service.Diary

namespace Service

/-- A reply that says no more than that its call has failed. -/
def Event.fails : Event → Bool
  | .reply (.analyzed (.error _)) | .reply (.status (.error _)) | .reply (.history (.error _)) => true
  | _ => false

/-- What a submission with this outcome has called for last: a task that may still be alive is released. -/
def finalRelease : Except AnalysisError Report → List Call
  | .error (.poll (.exhausted task _)) | .error (.poll (.cancelled task)) => [.release task]
  | _ => []

/-- What an analysis calls for last, if this is the outcome of its submission. -/
def finalCalls : Except AnalysisError Report → List Call
  | .ok _ => [.history]
  | outcome => finalRelease outcome

/-- The call that is out in this stage, if it is the last one of a submission. -/
def Stage.last (begun : Bool) : Stage → List Call
  | .releasing task _ => if begun then [.release task] else []
  | _ => []

/-- The calls are the submission, then questions about the task that the answer names, at most as many as
the policy allows, and then these. -/
def Disciplined (policy : PollPolicy) (request : Request) (diary : List Entry) (last : List Call) : Prop :=
  ∃ task count, calls diary = .analyze request :: (List.replicate count (.status task) ++ last) ∧
    count ≤ policy.attempts ∧ (0 < count → Answered diary (.ok (.task task)))

section Submission

variable {policy : PollPolicy} {request : Request} {diary : List Entry} {task : String}
  {outcome : Except AnalysisError Report}

theorem disciplined_of_calls {last : List Call} (h : calls diary = .analyze request :: last) :
    Disciplined policy request diary last :=
  ⟨"", 0, h, Nat.zero_le _, nofun⟩

theorem disciplined_watching {statuses : List TaskStatus} {rest : List Entry} {last : List Call}
    (asked : Nat) (hRest : calls rest = List.replicate asked (.status task) ++ last)
    (hFew : statuses.length + asked ≤ policy.attempts) :
    Disciplined policy request (watching policy request task statuses ++ rest) last := by
  refine ⟨task, statuses.length + asked, ?_, hFew, fun _ => List.mem_append_left _ (.tail _ (.head _))⟩
  rw [calls_append, calls_watching, hRest, ← List.replicate_append_replicate, List.append_assoc,
    List.cons_append]

/-- Between two rounds there is at most one question. -/
theorem calls_of_prefix_question {rest : List Entry} (h : rest <+: question policy task) :
    ∃ asked, asked ≤ 1 ∧ calls rest = List.replicate asked (.status task) := by
  have hCalls : calls rest <+: [.status task] := h.filterMap Entry.call?
  have hLength : (calls rest).length ≤ 1 := hCalls.length_le
  refine ⟨(calls rest).length, hLength, List.eq_replicate_iff.mpr ⟨rfl, fun call hCall => ?_⟩⟩
  exact List.mem_singleton.mp (hCalls.subset hCall)

theorem reported_ended {attempt : Nat} {answer : Except NetworkError TaskStatus} {e : AnalysisError}
    (h : Stage.reported policy task attempt answer = .ended (.error e)) :
    e.task? = some task ∧ finalRelease (.error e) = [] := by
  unfold Stage.reported at h
  split at h
  · cases h
    exact ⟨rfl, rfl⟩
  · rename_i status
    split at h
    · unfold Stage.next at h
      split at h <;> cases h
    · simp only [Stage.ended.injEq] at h
      unfold Stage.finished at h
      split at h
      · cases h
        exact ⟨rfl, rfl⟩
      · rename_i v _
        cases hValue : Wire.report.ofValue v with
        | ok report => rw [hValue] at h; cases h
        | error failure => rw [hValue] at h; cases h; exact ⟨rfl, rfl⟩
    · cases h
      exact ⟨rfl, rfl⟩

/-- What a submission with a task has come to by the end: the task is known, each of its states has been
asked for, and the task has been released if it may be alive. -/
structure Watched (policy : PollPolicy) (request : Request) (task : String) (diary : List Entry)
    (outcome : Except AnalysisError Report) : Prop where
  answered : ∀ answer, Answered diary answer ↔ answer = .ok (.task task)
  calls : Disciplined policy request diary (finalRelease outcome)
  fails : ∀ e, outcome = .error e → e.task? = some task

theorem watched_judged {statuses : List TaskStatus} {answer : Except NetworkError TaskStatus}
    (hMore : statuses.length < policy.attempts)
    (hReported : Stage.reported policy task (statuses.length + 1) answer = .ended outcome) :
    Watched policy request task
      (watching policy request task statuses ++ question policy task ++ [.met (.reply (.status answer))])
      outcome := by
  have hRest : ∀ other, ¬ Answered (question policy task ++ [.met (.reply (.status answer))]) other := by
    simp [Answered, question]
  have hRelease : finalRelease outcome = [] := by
    cases outcome with
    | ok report => rfl
    | error e => exact (reported_ended hReported).2
  rw [List.append_assoc]
  refine ⟨answered_watching_append policy request task statuses hRest, ?_, fun e hError => ?_⟩
  · rw [hRelease]
    exact disciplined_watching 1 rfl hMore
  · subst hError
    exact (reported_ended hReported).1

theorem disciplined_givenUp {before rest : List Entry} {e : PollError}
    (h : Stage.GivenUp policy request before task e) :
    Disciplined policy request (before ++ rest) (calls rest) := by
  cases h with
  | exhausted _ hPending hAll => exact disciplined_watching 0 rfl (Nat.le_of_eq hAll)
  | cancelled _ hPending hMore hRest =>
      obtain ⟨asked, hAsked, hCalls⟩ := calls_of_prefix_question hRest
      rw [List.append_assoc, List.append_assoc]
      refine disciplined_watching asked ?_ (by omega)
      rw [calls_append, hCalls]
      rfl

theorem answered_givenUp {before rest : List Entry} {e : PollError}
    (h : Stage.GivenUp policy request before task e) (hRest : ∀ answer, ¬ Answered rest answer)
    (answer : Except NetworkError AnalyzeAnswer) :
    Answered (before ++ rest) answer ↔ answer = .ok (.task task) := by
  cases h with
  | exhausted _ hPending hAll => exact answered_watching_append policy request task _ hRest answer
  | cancelled _ hPending hMore hAsking =>
      rw [List.append_assoc, List.append_assoc]
      refine answered_watching_append policy request task _ (fun other hMem => ?_) answer
      rcases List.mem_append.mp hMem with hOld | hLast
      · exact no_reply_of_prefix_question policy task hAsking _ hOld
      · rcases List.mem_cons.mp hLast with hMet | hNew
        · cases hMet
        · exact hRest other hNew

theorem watched_released {before : List Entry} {e : PollError}
    (h : Stage.GivenUp policy request before task e) :
    Watched policy request task (before ++ [.began (.call (.release task)), .met (.reply .released)])
      (.error (.poll e)) := by
  have hRelease : finalRelease (.error (.poll e)) = [.release task] := by cases h <;> rfl
  refine ⟨answered_givenUp h (by simp [Answered]), ?_, fun _ hError => ?_⟩
  · rw [hRelease]
    exact disciplined_givenUp h
  · cases hError
    cases h <;> rfl

/-- The submission has been given up before anything was done. -/
def Unmade (diary : List Entry) (outcome : Except AnalysisError Report) : Prop :=
  diary = [.met .cancelled] ∧ outcome = .error .cancelled

theorem disciplined_of_ends (h : Stage.Ends policy request diary outcome) :
    Unmade diary outcome ∨ Disciplined policy request diary (finalRelease outcome) := by
  cases h with
  | unanswered hRest =>
      rcases List.prefix_cons_iff.mp hRest with rfl | ⟨rest, rfl, hNil⟩
      · exact .inl ⟨rfl, rfl⟩
      · obtain rfl : rest = [] := List.prefix_nil.mp hNil
        exact .inr (disciplined_of_calls rfl)
  | refused e => exact .inr (disciplined_of_calls rfl)
  | completed report => exact .inr (disciplined_of_calls rfl)
  | judged task hPending hMore hReported => exact .inr (watched_judged hMore hReported).calls
  | released hBefore => exact .inr (watched_released hBefore).calls

theorem network_iff_of_ends (h : Stage.Ends policy request diary outcome) (e : NetworkError) :
    outcome = .error (.network e) ↔ Answered diary (.error e) := by
  have hWatched : ∀ {task diary outcome}, Watched policy request task diary outcome →
      (outcome = .error (.network e) ↔ Answered diary (.error e)) := by
    intro task diary outcome h
    refine ⟨fun hError => ?_, fun hAnswered => ?_⟩
    · cases h.fails _ hError
    · cases (h.answered _).mp hAnswered
  cases h with
  | unanswered hRest =>
      rcases List.prefix_cons_iff.mp hRest with rfl | ⟨rest, rfl, hNil⟩
      · simp [Answered]
      · obtain rfl : rest = [] := List.prefix_nil.mp hNil
        simp [Answered]
  | refused other => simp [Answered, eq_comm]
  | completed report => simp [Answered]
  | judged task hPending hMore hReported => exact hWatched (watched_judged hMore hReported)
  | released hBefore => exact hWatched (watched_released hBefore)

theorem task_iff_of_ends {e : AnalysisError} (h : Stage.Ends policy request diary (.error e))
    (task : String) : e.task? = some task ↔ Answered diary (.ok (.task task)) := by
  have hWatched : ∀ {other diary}, Watched policy request other diary (.error e) →
      (e.task? = some task ↔ Answered diary (.ok (.task task))) := by
    intro other diary h
    rw [h.fails e rfl, h.answered]
    simp [eq_comm]
  generalize hOutcome : (Except.error e : Except AnalysisError Report) = outcome at h
  cases h with
  | unanswered hRest =>
      cases hOutcome
      rcases List.prefix_cons_iff.mp hRest with rfl | ⟨rest, rfl, hNil⟩
      · simp [Answered, AnalysisError.task?]
      · obtain rfl : rest = [] := List.prefix_nil.mp hNil
        simp [Answered, AnalysisError.task?]
  | refused other =>
      cases hOutcome
      simp [Answered, AnalysisError.task?]
  | completed report => cases hOutcome
  | judged task hPending hMore hReported =>
      subst hOutcome
      exact hWatched (watched_judged hMore hReported)
  | released hBefore =>
      cases hOutcome
      exact hWatched (watched_released hBefore)

theorem disciplined_of_account {stage : Stage} {begun : Bool}
    (h : stage.Account policy request diary begun) (hGoesOn : ∀ outcome, stage ≠ .ended outcome) :
    diary = [] ∨ Disciplined policy request diary (stage.last begun) := by
  have hWatching : ∀ {task : String} {attempt : Nat},
      stage = .waiting task attempt ∨ stage = .polling task attempt →
        Disciplined policy request diary [] := by
    intro task attempt hStage
    obtain ⟨statuses, rest, hMore, hRest, rfl⟩ := h.watching hStage
    obtain ⟨asked, hAsked, hCalls⟩ := calls_of_prefix_question hRest
    refine disciplined_watching asked ?_ (by omega)
    rw [hCalls, List.append_nil]
  cases stage with
  | asking =>
      obtain rfl : diary = if begun then [.began (.call (.analyze request))] else [] := h
      cases begun with
      | false => exact .inl rfl
      | true => exact .inr (disciplined_of_calls rfl)
  | waiting task attempt => exact .inr (hWatching (.inl rfl))
  | polling task attempt => exact .inr (hWatching (.inr rfl))
  | releasing task e =>
      obtain ⟨before, hGivenUp, rfl⟩ := h
      have hLast : (Stage.releasing task e).last begun =
          calls (if begun then [.began (.call (.release task))] else []) := by
        cases begun <;> rfl
      rw [hLast]
      exact .inr (disciplined_givenUp hGivenUp)
  | ended outcome => exact absurd rfl (hGoesOn outcome)

end Submission

end Service

/-- The course of an analysis under its token. -/
abbrev Analysed (policy : PollPolicy) (request : Request) (fires : Option Nat) :
    List Entry → Errand → Bool → Prop :=
  CancellableCourse (Errand.action? policy) (Errand.step policy) Errand.heeds fires
    (.analysis request .asking)

namespace Errand

variable {policy : PollPolicy} {request : Request} {fires : Option Nat} {diary : List Entry}
  {errand next : Errand} {begun : Bool}

/-- The diary of an analysis begins with that of its submission. -/
inductive Account (policy : PollPolicy) (request : Request) (fires : Option Nat) :
    List Entry → Errand → Bool → Prop
  | submitting {diary : List Entry} {stage : Stage} {begun : Bool}
      (hGoesOn : ∀ outcome, stage ≠ .ended outcome)
      (h : SubmittedUnder policy request fires diary stage begun) :
      Account policy request fires diary (.analysis request stage) begun
  | failed {diary : List Entry} {e : AnalysisError}
      (h : SubmittedUnder policy request fires diary (.ended (.error e)) false) :
      Account policy request fires diary (.sending (failure e)) false
  | reported {diary : List Entry} {report : Report}
      (h : SubmittedUnder policy request fires diary (.ended (.ok report)) false) :
      Account policy request fires diary (.recording report) false
  | asked {diary : List Entry} {report : Report}
      (h : SubmittedUnder policy request fires diary (.ended (.ok report)) false) :
      Account policy request fires (diary ++ [.began (.call .history)]) (.recording report) true
  | recorded {diary : List Entry} {report : Report} (answer : Except NetworkError (List Report))
      (h : SubmittedUnder policy request fires diary (.ended (.ok report)) false) :
      Account policy request fires
        (diary ++ [.began (.call .history)] ++ [.met (.reply (.history answer))])
        (.sending [.analysisFinished report, listed answer]) false

theorem Account.begins {action : Stage.Action} (h : Account policy request fires diary errand false)
    (hOn : (errand.heeds && fired fires diary) = false) (hAction : errand.action? policy = some action) :
    Account policy request fires (diary ++ [.began action]) errand true := by
  cases h with
  | submitting hGoesOn h => exact .submitting hGoesOn (h.begins hOn hAction)
  | failed h => cases hAction
  | reported h =>
      cases hAction
      exact .asked h
  | recorded answer h => cases hAction

theorem account_ofStage {stage : Stage} (h : SubmittedUnder policy request fires diary stage false) :
    Account policy request fires diary (ofStage request stage) false := by
  unfold ofStage
  split
  · exact .reported h
  · exact .failed h
  · rename_i hFinished hFailed
    refine .submitting (fun outcome hEnded => ?_) h
    cases outcome with
    | ok report => exact hFinished report hEnded
    | error e => exact hFailed e hEnded

theorem Account.meets {event : Event} (h : Account policy request fires diary errand begun)
    (hMeet : event = .cancelled ∨ begun = true)
    (hToken : event = .cancelled ↔ (errand.heeds && fired fires diary) = true)
    (hStep : errand.step policy event = some next) :
    Account policy request fires (diary ++ [.met event]) next false := by
  cases h with
  | submitting hGoesOn h =>
      obtain ⟨stage, hStage, rfl⟩ := Option.map_eq_some_iff.mp hStep
      exact account_ofStage (h.meets hMeet hToken hStage)
  | failed h => cases hStep
  | reported h =>
      obtain rfl : event = .cancelled := hMeet.resolve_right nofun
      cases hStep
  | asked h =>
      cases event with
      | reply reply =>
          cases reply with
          | history answer =>
              cases hStep
              exact .recorded answer h
          | _ => cases hStep
      | _ => cases hStep
  | recorded answer h => cases hStep

theorem heeds_of_step_cancelled (h : errand.step policy .cancelled = some next) : errand.heeds = true := by
  cases errand with
  | analysis request stage =>
      obtain ⟨after, hStep, -⟩ := Option.map_eq_some_iff.mp h
      exact (Stage.heeds_iff_step_cancelled policy stage).mpr (by rw [hStep]; rfl)
  | _ => cases h

theorem heeds_ofStage (request : Request) (stage : Stage) : (ofStage request stage).heeds = stage.heeds := by
  unfold ofStage
  split <;> rfl

theorem not_heeds_of_step {event : Event} (h : errand.step policy event = some next)
    (hOver : event = .cancelled ∨ errand.heeds = false) : next.heeds = false := by
  unfold step at h
  split at h
  · obtain ⟨stage, hStage, rfl⟩ := Option.map_eq_some_iff.mp h
    rw [heeds_ofStage]
    exact Stage.not_heeds_of_step hStage hOver
  · cases h
    rfl
  · cases h
    rfl
  · cases h

end Errand

/-- Whatever happens to an analysis, and whenever it is cancelled, it is under some token. -/
theorem exists_analysed {policy : PollPolicy} {request : Request} {diary : List Entry} {errand : Errand}
    {begun : Bool} (h : Course (Errand.action? policy) (Errand.step policy) (.analysis request .asking)
      diary errand begun) : ∃ fires, Analysed policy request fires diary errand begun :=
  (CancellableCourse.exists_of_course Errand.heeds_of_step_cancelled Errand.not_heeds_of_step h).imp
    fun _ hAnalysed => hAnalysed.1

theorem Analysed.account {policy : PollPolicy} {request : Request} {fires : Option Nat}
    {diary : List Entry} {errand : Errand} {begun : Bool}
    (h : Analysed policy request fires diary errand begun) :
    Errand.Account policy request fires diary errand begun := by
  induction h with
  | start => exact .submitting nofun .start
  | begins _ hOn hAction ih => exact ih.begins hOn hAction
  | meets _ hMeet hToken hStep ih => exact ih.meets hMeet hToken hStep

/-- An analysis that goes on. The history is asked for once the submission has its report, and a task is
released once the submission has given it up. -/
structure Underway (policy : PollPolicy) (request : Request) (fires : Option Nat) (diary : List Entry)
    (errand : Errand) (begun : Bool) : Prop where
  submitting : ∀ stage, errand = .analysis request stage →
    SubmittedUnder policy request fires diary stage begun ∧
      (diary = [] ∨ Disciplined policy request diary (stage.last begun))
  recording : ∀ report, errand = .recording report →
    (∃ submission, submission <+: diary ∧
      SubmittedUnder policy request fires submission (.ended (.ok report)) false) ∧
    Disciplined policy request diary (if begun then [.history] else [])
  releasing : ∀ task e, errand = .analysis request (.releasing task e) →
    Answered diary (.ok (.task task)) ∧ (e = .exhausted task policy.attempts ∨ e = .cancelled task)

/-- An analysis that has come to its commands, and the outcome of its submission. -/
structure Concluded (policy : PollPolicy) (request : Request) (fires : Option Nat) (diary : List Entry)
    (commands : List Command) (outcome : Except AnalysisError Report) : Prop where
  submission : ∃ submission, submission <+: diary ∧
    SubmittedUnder policy request fires submission (.ended outcome) false
  unmade : fires = some 0 → Unmade diary outcome
  calls : fires ≠ some 0 → Disciplined policy request diary (finalCalls outcome)
  network : ∀ e, outcome = .error (.network e) ↔ Answered diary (.error e)
  task : ∀ e, outcome = .error e → ∀ task, e.task? = some task ↔ Answered diary (.ok (.task task))
  failed : ∀ e, outcome = .error e → commands = Errand.failure e
  reported : ∀ report, outcome = .ok report → ∃ answer, .met (.reply (.history answer)) ∈ diary ∧
    commands = [.analysisFinished report, Errand.listed answer]

/-- An analysis whose token has fired before it begins. It is cancelled, if it has not been already, and
never makes a call. -/
structure Forestalled (policy : PollPolicy) (request : Request) (diary : List Entry) (errand : Errand)
    (begun : Bool) : Prop where
  calls : calls diary = []
  idle : begun = false
  ends : errand = .sending (Errand.failure .cancelled) ∨
    errand = .analysis request .asking ∧
      Analysed policy request (some 0) (diary ++ [.met .cancelled])
        (.sending (Errand.failure .cancelled)) false

section Calls

variable {policy : PollPolicy} {request : Request} {fires : Option Nat} {diary : List Entry}
  {errand : Errand} {begun : Bool}

/-- A report is not the outcome of a submission that has made no call. -/
theorem disciplined_of_report {report : Report}
    (h : SubmittedUnder policy request fires diary (.ended (.ok report)) false) :
    Disciplined policy request diary [] :=
  (disciplined_of_ends h.account).resolve_left fun hUnmade => nomatch hUnmade.2

/-- A submission whose token fired before it began has ended with that. -/
theorem unmade_of_fired {outcome : Except AnalysisError Report}
    (h : SubmittedUnder policy request (some 0) diary (.ended outcome) false) : Unmade diary outcome := by
  obtain ⟨-, ⟨-, hStage⟩ | ⟨hDiary, hStage⟩⟩ := h.of_fired_first rfl rfl ⟨rfl, fun _ => rfl⟩
  · cases hStage
  · cases hStage
    exact ⟨hDiary, rfl⟩

/-- Any other submission has been made. -/
theorem disciplined_of_unfired {outcome : Except AnalysisError Report} (hFires : fires ≠ some 0)
    (h : SubmittedUnder policy request fires diary (.ended outcome) false) :
    Disciplined policy request diary (finalRelease outcome) :=
  (disciplined_of_ends h.account).resolve_left fun hUnmade => h.not_met_first hFires hUnmade.1

theorem Service.Disciplined.append {rest : List Entry} (h : Disciplined policy request diary []) :
    Disciplined policy request (diary ++ rest) (calls rest) := by
  obtain ⟨task, count, hCalls, hFew, hAnswered⟩ := h
  refine ⟨task, count, ?_, hFew, fun hSome => List.mem_append_left _ (hAnswered hSome)⟩
  rw [calls_append, hCalls, List.append_nil, List.cons_append]

theorem releasing_of_account {task : String} {e : PollError}
    (h : (Stage.releasing task e).Account policy request diary begun) :
    Answered diary (.ok (.task task)) ∧ (e = .exhausted task policy.attempts ∨ e = .cancelled task) := by
  obtain ⟨before, hGivenUp, rfl⟩ := h
  refine ⟨(answered_givenUp hGivenUp (fun answer hMem => ?_) _).mpr rfl, ?_⟩
  · cases begun <;> simp [Answered] at hMem
  · cases hGivenUp with
    | exhausted => exact .inl rfl
    | cancelled => exact .inr rfl

theorem Errand.Account.underway (h : Errand.Account policy request fires diary errand begun)
    (hGoesOn : ∀ commands, errand ≠ .sending commands) :
    Underway policy request fires diary errand begun := by
  have hRecording : ∀ {report : Report} {submission rest : List Entry},
      SubmittedUnder policy request fires submission (.ended (.ok report)) false →
      calls rest = (if begun then [.history] else []) →
      Underway policy request fires (submission ++ rest) (.recording report) begun := by
    intro report submission rest h hRest
    refine ⟨fun _ hErrand => (by cases hErrand), fun other hErrand => ?_,
      fun _ _ hErrand => (by cases hErrand)⟩
    cases hErrand
    rw [← hRest]
    exact ⟨⟨submission, List.prefix_append _ _, h⟩, (disciplined_of_report h).append⟩
  cases h with
  | submitting hStage h =>
      refine ⟨fun stage hErrand => ?_, fun _ hErrand => (by cases hErrand), fun task e hErrand => ?_⟩
      · cases hErrand
        exact ⟨h, disciplined_of_account h.account hStage⟩
      · cases hErrand
        exact releasing_of_account h.account
  | failed => exact absurd rfl (hGoesOn _)
  | reported h =>
      have hReported := @hRecording _ _ [] h rfl
      rwa [List.append_nil] at hReported
  | asked h => exact hRecording h rfl
  | recorded => exact absurd rfl (hGoesOn _)

theorem concluded_failed {e : AnalysisError}
    (h : SubmittedUnder policy request fires diary (.ended (.error e)) false) :
    Concluded policy request fires diary (Errand.failure e) (.error e) where
  submission := ⟨diary, List.prefix_refl _, h⟩
  unmade hFires := by
    subst hFires
    exact unmade_of_fired h
  calls hFires := disciplined_of_unfired hFires h
  network := network_iff_of_ends h.account
  task other hError := by
    cases hError
    exact task_iff_of_ends h.account
  failed other hError := by
    cases hError
    rfl
  reported report hReport := by cases hReport

theorem concluded_recorded {report : Report} (answer : Except NetworkError (List Report))
    (h : SubmittedUnder policy request fires diary (.ended (.ok report)) false) :
    Concluded policy request fires
      (diary ++ [.began (.call .history)] ++ [.met (.reply (.history answer))])
      [.analysisFinished report, Errand.listed answer] (.ok report) where
  submission := by
    rw [List.append_assoc]
    exact ⟨diary, List.prefix_append _ _, h⟩
  unmade hFires := by
    subst hFires
    exact nomatch (unmade_of_fired h).2
  calls _ := by
    rw [List.append_assoc]
    exact (disciplined_of_report h).append
  network e := by
    have hAnswered : Answered (diary ++ [.began (.call .history)] ++ [.met (.reply (.history answer))])
        (.error e) ↔ Answered diary (.error e) := by
      simp [Answered]
    rw [hAnswered]
    exact network_iff_of_ends h.account e
  task e hError := by cases hError
  failed e hError := by cases hError
  reported other hReport := by
    cases hReport
    exact ⟨answer, List.mem_append_right _ (.head _), rfl⟩

theorem Errand.Account.concluded {commands : List Command}
    (h : Errand.Account policy request fires diary (.sending commands) begun) :
    ∃ outcome, Concluded policy request fires diary commands outcome := by
  generalize hSending : Errand.sending commands = errand at h
  cases h with
  | submitting => cases hSending
  | failed h =>
      cases hSending
      exact ⟨_, concluded_failed h⟩
  | reported => cases hSending
  | asked => cases hSending
  | recorded answer h =>
      cases hSending
      exact ⟨_, concluded_recorded answer h⟩

theorem Errand.sending_of_fails {next : Errand} {event : Event} (hFails : event.fails = true)
    (hStep : errand.step policy event = some next) : ∃ commands, next = .sending commands := by
  unfold step at hStep
  split at hStep
  · rename_i request stage event
    obtain ⟨after, hStage, rfl⟩ := Option.map_eq_some_iff.mp hStep
    unfold Stage.step at hStage
    split at hStage <;> simp only [Option.some.injEq, reduceCtorEq] at hStage <;> subst hStage
    · rename_i answer
      cases answer with
      | error e => exact ⟨_, rfl⟩
      | ok answer => cases hFails
    · cases hFails
    · cases hFails
    · cases hFails
    · rename_i answer
      cases answer with
      | error e => exact ⟨_, rfl⟩
      | ok status => cases hFails
    · cases hFails
    · cases hFails
  · cases hStep
    exact ⟨_, rfl⟩
  · cases hStep
    exact ⟨_, rfl⟩
  · cases hStep

/-- No call has failed, or the last thing that has happened is that one did. -/
theorem Analysed.silent (h : Analysed policy request fires diary errand begun) :
    (∀ event, .met event ∈ diary → event.fails = false) ∨
    (∃ commands, errand = .sending commands) ∧ ∃ before event, diary = before ++ [.met event] ∧
      ∀ other, .met other ∈ before → other.fails = false := by
  induction h with
  | start => exact .inl nofun
  | begins _ _ hAction ih =>
      rcases ih with hNone | ⟨⟨commands, rfl⟩, _⟩
      · refine .inl fun event hMem => ?_
        rcases List.mem_append.mp hMem with hOld | hNew
        · exact hNone event hOld
        · cases List.mem_singleton.mp hNew
      · cases hAction
  | @meets diary errand next begun event _ _ _ hStep ih =>
      rcases ih with hNone | ⟨⟨commands, rfl⟩, _⟩
      · cases hFails : event.fails with
        | true => exact .inr ⟨Errand.sending_of_fails hFails hStep, diary, event, rfl, hNone⟩
        | false =>
            refine .inl fun other hMem => ?_
            rcases List.mem_append.mp hMem with hOld | hNew
            · exact hNone other hOld
            · cases List.mem_singleton.mp hNew
              exact hFails
      · cases hStep

theorem Analysed.eq_nil_of_fails (h : Analysed policy request fires diary errand begun)
    {before rest : List Entry} {event : Event} (hDiary : diary = before ++ .met event :: rest)
    (hFails : event.fails = true) : rest = [] := by
  have hMet : .met event ∈ diary := hDiary ▸ List.mem_append_right _ (.head _)
  rcases h.silent with hNone | ⟨_, earlier, last, hLast, hNone⟩
  · rw [hNone event hMet] at hFails
    cases hFails
  · rcases List.eq_nil_or_concat rest with hNil | ⟨most, other, rfl⟩
    · exact hNil
    · have hEarlier : earlier = before ++ .met event :: most := by
        have hSame : earlier ++ [.met last] = (before ++ .met event :: most) ++ [other] := by
          rw [← hLast, hDiary, List.append_assoc, List.cons_append, List.concat_eq_append]
        exact (List.append_inj' hSame rfl).1
      have hFalse := hNone event (hEarlier ▸ List.mem_append_right _ (.head _))
      rw [hFalse] at hFails
      cases hFails

theorem Analysed.forestalled (h : Analysed policy request (some 0) diary errand begun) :
    Forestalled policy request diary errand begun := by
  obtain ⟨rfl, ⟨rfl, rfl⟩ | ⟨rfl, rfl⟩⟩ := h.of_fired_first rfl rfl ⟨rfl, fun _ => rfl⟩
  · have hStops : Event.cancelled = .cancelled ↔
        (Errand.heeds (.analysis request .asking) && fired (some 0) []) = true := iff_of_true rfl rfl
    exact ⟨rfl, rfl, .inr ⟨rfl, h.meets (.inl rfl) hStops rfl⟩⟩
  · exact ⟨rfl, rfl, .inl rfl⟩

/-- The calls of an analysis, at any time and when it has come to an end: the submission, unless its token
has fired before it begins, then the questions about its task, then the history of the finished analyses or
the release of a task that may still be alive. No failed call is followed by another. -/
theorem analysis_disciplined (h : Analysed policy request fires diary errand begun) :
    ((∀ commands, errand ≠ .sending commands) → Underway policy request fires diary errand begun) ∧
    (∀ commands, errand = .sending commands →
      ∃ outcome, Concluded policy request fires diary commands outcome) ∧
    (∀ before event rest, diary = before ++ .met event :: rest → event.fails = true → rest = []) ∧
    (fires = some 0 → Forestalled policy request diary errand begun) := by
  refine ⟨h.account.underway, fun commands hSending => ?_, fun _ _ _ => h.eq_nil_of_fails, fun hFires => ?_⟩
  · subst hSending
    exact h.account.concluded
  · subst hFires
    exact h.forestalled

/-- A task is given up while it is waited for the first time. Had the token fired before all, nothing would
have been done. -/
theorem analysis_disciplined_given_up :
    let policy : PollPolicy := ⟨1000, 3⟩
    let request : Request := ⟨"contract Vault \x7b\x7d", .solidity⟩
    let diary : List Entry := [.began (.call (.analyze request)),
      .met (.reply (.analyzed (.ok (.task "1")))), .began (.sleep 1000), .met .cancelled,
      .began (.call (.release "1")), .met (.reply .released)]
    Analysed policy request (some 3) diary (.sending (Errand.failure (.poll (.cancelled "1")))) false ∧
      (∃ outcome, Concluded policy request (some 3) diary (Errand.failure (.poll (.cancelled "1"))) outcome) ∧
      Analysed policy request (some 0) [.met .cancelled] (.sending (Errand.failure .cancelled)) false ∧
      Forestalled policy request [.met .cancelled] (.sending (Errand.failure .cancelled)) false := by
  intro policy request diary
  have hAsked : Analysed policy request (some 3) [.began (.call (.analyze request))]
      (.analysis request .asking) true := .begins .start rfl rfl
  have hTask : Analysed policy request (some 3) [.began (.call (.analyze request)),
      .met (.reply (.analyzed (.ok (.task "1"))))] (.analysis request (.waiting "1" 1)) false :=
    hAsked.meets (.inr rfl) (iff_of_false nofun nofun) rfl
  have hCancelled : Analysed policy request (some 3) [.began (.call (.analyze request)),
      .met (.reply (.analyzed (.ok (.task "1")))), .began (.sleep 1000), .met .cancelled]
      (.analysis request (.releasing "1" (.cancelled "1"))) false :=
    (hTask.begins rfl rfl).meets (.inl rfl) (iff_of_true rfl rfl) rfl
  have hEnd : Analysed policy request (some 3) diary
      (.sending (Errand.failure (.poll (.cancelled "1")))) false :=
    (hCancelled.begins rfl rfl).meets (.inr rfl) (iff_of_false nofun nofun) rfl
  have hNothing : Analysed policy request (some 0) [.met .cancelled]
      (.sending (Errand.failure .cancelled)) false := .meets .start (.inl rfl) (iff_of_true rfl rfl) rfl
  exact ⟨hEnd, (analysis_disciplined hEnd).2.1 _ rfl, hNothing, (analysis_disciplined hNothing).2.2.2 rfl⟩

/-- An analysis whose token fires before it begins makes no call, not even the submission. -/
theorem not_always_submitted :
    ¬ ∀ (policy : PollPolicy) (request : Request) (fires : Option Nat) (diary : List Entry)
        (commands : List Command), Analysed policy request fires diary (.sending commands) false →
          (calls diary).countP (· = .analyze request) = 1 := by
  intro h
  have hCancelled : Analysed .standard ⟨"", .solidity⟩ (some 0) [.met .cancelled]
      (.sending (Errand.failure .cancelled)) false := .meets .start (.inl rfl) (iff_of_true rfl rfl) rfl
  exact absurd (h _ _ _ _ _ hCancelled) (by decide)

end Calls

end AuditDesk
