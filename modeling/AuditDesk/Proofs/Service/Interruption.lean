import AuditDesk.Proofs.Service.Waking
import AuditDesk.Proofs.Service.Submitting
import AuditDesk.Proofs.Service.Watch
import Mathlib.Logic.Function.Iterate

/-! A submission beside the same one without its token. Between two wake-ups the token may fire; up to then
both do the same, and afterwards the submission starts nothing more, gives up its task and ends, unless it
has ended before or has no question left. -/
namespace AuditDesk.Service

namespace Outlook

variable {o : Outlook} {policy : PollPolicy} {request : Request} {fired : Bool}

/-- Whatever else happens, the submission ends so. -/
def EndsWith (run : Nat → Stage × Log) (outcome : Except AnalysisError Report) : Prop :=
  ∃ first, ∀ count, first ≤ count → (run count).1 = .ended outcome

theorem EndsWith.of_wake_eq {w w' : Stage × Log} {outcome : Except AnalysisError Report}
    (hWake : o.wake policy request fired w = o.wake policy request fired w')
    (h : EndsWith (fun count => (o.wake policy request fired)^[count] w') outcome) :
    EndsWith (fun count => (o.wake policy request fired)^[count] w) outcome := by
  obtain ⟨first, hEnds⟩ := h
  refine ⟨first + 1, fun count hCount => ?_⟩
  obtain ⟨count, rfl⟩ := Nat.exists_eq_succ_of_ne_zero (Nat.ne_zero_of_lt hCount)
  dsimp only at hEnds ⊢
  rw [Function.iterate_succ_apply, hWake, ← Function.iterate_succ_apply]
  exact hEnds _ (Nat.le_of_succ_le hCount)

section Ending

variable (o) (policy request) (fired)

theorem carryOn_ended (outcome : Except AnalysisError Report) (steps : Nat) (l : Log) :
    Stage.carryOn policy (o.react policy request fired) steps (.ended outcome) l = (.ended outcome, l) := by
  cases steps <;> rfl

theorem iterate_wake_ended (outcome : Except AnalysisError Report) (l : Log) (count : Nat) :
    (o.wake policy request fired)^[count] (.ended outcome, l) = (.ended outcome, l) :=
  Function.iterate_fixed rfl count

theorem wake_releasing_of_none (task : String) (e : PollError) (diary : List Entry) :
    o.wake policy request fired (.releasing task e, ⟨diary, none⟩) =
      o.wake policy request fired (.releasing task e, o.begin ⟨diary, none⟩ (.call (.release task))) :=
  rfl

/-- A task is released after as many wake-ups in vain as are left. -/
theorem iterate_wake_releasing (task : String) (e : PollError) (diary : List Entry) (left : Nat) :
    (o.wake policy request fired)^[left + 1] (.releasing task e, ⟨diary, some left⟩) =
      (.ended (.error (.poll e)), ⟨diary ++ [.met (.reply .released)], none⟩) := by
  induction left with
  | zero => rfl
  | succ left ih =>
      rw [Function.iterate_succ_apply]
      exact ih

theorem endsWith_releasing (task : String) (e : PollError) (l : Log) :
    EndsWith (fun count => (o.wake policy request fired)^[count] (.releasing task e, l))
      (.error (.poll e)) := by
  have hBegun : ∀ (diary : List Entry) (left : Nat), EndsWith
      (fun count => (o.wake policy request fired)^[count] (.releasing task e, ⟨diary, some left⟩))
      (.error (.poll e)) := by
    refine fun diary left => ⟨left + 1, fun count hCount => ?_⟩
    obtain ⟨more, rfl⟩ := Nat.exists_eq_add_of_le' hCount
    dsimp only
    rw [Function.iterate_add_apply, iterate_wake_releasing, iterate_wake_ended]
  obtain ⟨diary, left⟩ := l
  cases left with
  | some left => exact hBegun diary left
  | none => exact .of_wake_eq (wake_releasing_of_none o policy request fired task e diary) (hBegun _ _)

theorem carryOn_releasing (task : String) (e : PollError) (steps : Nat) (l : Log) :
    Stage.carryOn policy (o.react policy request fired) (steps + 1) (.releasing task e) l =
      o.wake policy request fired (.releasing task e, l) := by
  have hBegun : ∀ (diary : List Entry) (left : Nat),
      Stage.carryOn policy (o.react policy request fired) (steps + 1) (.releasing task e)
          ⟨diary, some left⟩ =
        o.wake policy request fired (.releasing task e, ⟨diary, some left⟩) := by
    intro diary left
    cases left with
    | zero => exact carryOn_ended o policy request fired _ steps _
    | succ left => rfl
  obtain ⟨diary, left⟩ := l
  cases left with
  | some left => exact hBegun diary left
  | none => exact hBegun (o.begin ⟨diary, none⟩ (.call (.release task))).diary _

theorem wake_asking_fired (l : Log) :
    o.wake policy request true (.asking, l) =
      (.ended (.error .cancelled), ⟨l.diary ++ [.met .cancelled], none⟩) := rfl

/-- A task that is given up is released at once. -/
theorem wake_watching_fired {stage : Stage} {task : String} {attempt : Nat}
    (hStage : stage = .waiting task attempt ∨ stage = .polling task attempt) (l : Log) :
    o.wake policy request true (stage, l) =
      o.wake policy request true
        (.releasing task (.cancelled task), ⟨l.diary ++ [.met .cancelled], none⟩) := by
  obtain rfl | rfl := hStage
  · exact carryOn_releasing o policy request true task _ (2 * (policy.attempts - attempt) + 1) _
  · exact carryOn_releasing o policy request true task _ (2 * (policy.attempts - attempt)) _

end Ending

section Firing

theorem awoken_eq_of_le {fires count : Nat} (h : count ≤ fires) :
    o.awoken policy request (some fires) count = o.awoken policy request none count := by
  induction count with
  | zero => rfl
  | succ count ih =>
      have hLater : ¬ fires ≤ count := by omega
      simp only [awoken, ih (by omega), Option.any_some, Option.any_none, decide_eq_false hLater]

theorem awoken_none_add (first count : Nat) :
    o.awoken policy request none (first + count) =
      (o.wake policy request false)^[count] (o.awoken policy request none first) := by
  induction count with
  | zero => rfl
  | succ count ih =>
      rw [Function.iterate_succ_apply', ← ih]
      rfl

theorem awoken_some_add (fires count : Nat) :
    o.awoken policy request (some fires) (fires + count) =
      (o.wake policy request true)^[count] (o.awoken policy request none fires) := by
  induction count with
  | zero => exact awoken_eq_of_le (Nat.le_refl fires)
  | succ count ih =>
      rw [Function.iterate_succ_apply', ← ih, ← Nat.add_assoc]
      simp only [awoken, Option.any_some, decide_eq_true (Nat.le_add_right fires count)]

theorem heeds_wake {w : Stage × Log} (h : w.1.heeds = false) :
    (o.wake policy request fired w).1.heeds = false := by
  exact wake_keeps (P := fun stage _ => stage.heeds = false) (fun _ _ _ h _ _ _ => h)
    (fun _ _ _ _ _ h _ _ _ hNext => Stage.not_heeds_of_step hNext (.inr h))
    (fun _ _ _ h _ hNext => Stage.not_heeds_of_step hNext (.inr h)) h

theorem wake_of_not_heeds {w : Stage × Log} (h : w.1.heeds = false) :
    o.wake policy request true w = o.wake policy request false w := by
  obtain ⟨stage, l⟩ := w
  cases stage with
  | releasing task e => rfl
  | ended outcome => rfl
  | _ => cases h

/-- Where no token is looked at, it makes no difference. -/
theorem iterate_wake_of_not_heeds (count : Nat) {w : Stage × Log} (h : w.1.heeds = false) :
    (o.wake policy request true)^[count] w = (o.wake policy request false)^[count] w := by
  induction count generalizing w with
  | zero => rfl
  | succ count ih =>
      rw [Function.iterate_succ_apply, Function.iterate_succ_apply, wake_of_not_heeds h]
      exact ih (heeds_wake h)

end Firing

end Outlook

namespace Stage

open Diary

/-- Where a submission is that nobody has cancelled, and what its diary says. -/
inductive Uncancelled (policy : PollPolicy) (diary : List Entry) : Stage → Prop
  | asking (hUnanswered : ∀ answer, ¬ Answered diary answer) : Uncancelled policy diary .asking
  | watching {stage : Stage} {task : String} {attempt : Nat}
      (hStage : stage = .waiting task attempt ∨ stage = .polling task attempt)
      (hAnswer : ∀ answer, Answered diary answer ↔ answer = .ok (.task task))
      (hMore : reports diary < policy.attempts) : Uncancelled policy diary stage
  | exhausted {task : String} (hAnswer : ∀ answer, Answered diary answer ↔ answer = .ok (.task task))
      (hAll : reports diary = policy.attempts) :
      Uncancelled policy diary (.releasing task (.exhausted task policy.attempts))
  | ended (outcome : Except AnalysisError Report) : Uncancelled policy diary (.ended outcome)

theorem Account.uncancelled {policy : PollPolicy} {request : Request} {diary : List Entry} {begun : Bool}
    {stage : Stage} (h : stage.Account policy request diary begun) (hPlain : .met .cancelled ∉ diary) :
    stage.Uncancelled policy diary := by
  have hWatching : ∀ {task : String} {attempt : Nat},
      stage = .waiting task attempt ∨ stage = .polling task attempt → stage.Uncancelled policy diary := by
    intro task attempt hStage
    obtain ⟨statuses, rest, hMore, hRest, hDiary⟩ := h.watching hStage
    have hSilent := no_reply_of_prefix_question policy task hRest
    subst hDiary
    refine .watching hStage
      (answered_watching_append policy request task statuses fun answer => hSilent (.analyzed answer)) ?_
    rwa [reports_watching_append policy request task statuses hSilent]
  cases stage with
  | asking =>
      obtain rfl : diary = if begun then [.began (.call (.analyze request))] else [] := h
      refine .asking fun answer hAnswered => ?_
      cases begun <;> simp [Answered] at hAnswered
  | waiting task attempt => exact hWatching (.inl rfl)
  | polling task attempt => exact hWatching (.inr rfl)
  | releasing task e =>
      obtain ⟨before, hGivenUp, rfl⟩ := h
      cases hGivenUp with
      | exhausted _ hPending hAll =>
          have hRest : ∀ reply : Reply, Entry.met (.reply reply) ∉
              if begun then [Entry.began (.call (.release task))] else [] := by
            cases begun <;> simp
          refine .exhausted
            (answered_watching_append policy request task _ fun answer => hRest (.analyzed answer)) ?_
          rw [reports_watching_append policy request task _ hRest, hAll]
      | cancelled => simp at hPlain
  | ended outcome => exact .ended outcome

end Stage

namespace Outlook

variable (o : Outlook) (policy : PollPolicy) (request : Request)

theorem uncancelled_stage (count : Nat) :
    (o.awoken policy request none count).1.Uncancelled policy
      (o.awoken policy request none count).2.diary :=
  (submitted_awoken none count).account.uncancelled (uncancelled_awoken count)

/-- What becomes of a submission once its token has fired, it becomes of the one that is woken so from then
on. -/
theorem endsWith_awoken_some {fires : Nat} {outcome : Except AnalysisError Report}
    (h : EndsWith (fun count => (o.wake policy request true)^[count] (o.awoken policy request none fires))
      outcome) :
    EndsWith (o.awoken policy request (some fires)) outcome := by
  obtain ⟨first, hEnds⟩ := h
  refine ⟨fires + first, fun count hCount => ?_⟩
  obtain ⟨more, rfl⟩ := Nat.exists_eq_add_of_le hCount
  rw [Nat.add_assoc, awoken_some_add]
  exact hEnds _ (Nat.le_add_right _ _)

theorem awoken_some_of_not_heeds {fires : Nat} (h : (o.awoken policy request none fires).1.heeds = false)
    (count : Nat) : o.awoken policy request (some fires) count = o.awoken policy request none count := by
  rcases Nat.le_total count fires with hBefore | hAfter
  · exact awoken_eq_of_le hBefore
  · obtain ⟨more, rfl⟩ := Nat.exists_eq_add_of_le hAfter
    rw [awoken_some_add, awoken_none_add, iterate_wake_of_not_heeds more h]

theorem efforts_awoken_some {fires count : Nat} (h : fires ≤ count) :
    Diary.efforts (o.awoken policy request (some fires) count).2.diary =
      Diary.efforts (o.awoken policy request none fires).2.diary := by
  obtain ⟨more, rfl⟩ := Nat.exists_eq_add_of_le h
  induction more with
  | zero => rw [Nat.add_zero, awoken_eq_of_le (Nat.le_refl fires)]
  | succ more ih =>
      rw [awoken_some_add, Function.iterate_succ_apply', ← awoken_some_add, efforts_wake_fired]
      exact ih (Nat.le_add_right _ _)

theorem endsWith_of_asking {fires : Nat} (h : (o.awoken policy request none fires).1 = .asking) :
    EndsWith (o.awoken policy request (some fires)) (.error .cancelled) := by
  refine endsWith_awoken_some o policy request ⟨1, fun count hCount => ?_⟩
  generalize o.awoken policy request none fires = w at h ⊢
  obtain ⟨stage, l⟩ := w
  obtain rfl : stage = .asking := h
  obtain ⟨count, rfl⟩ := Nat.exists_eq_succ_of_ne_zero (Nat.ne_zero_of_lt hCount)
  dsimp only
  rw [Function.iterate_succ_apply, wake_asking_fired, iterate_wake_ended]

theorem endsWith_of_watching {fires : Nat} {task : String} {attempt : Nat}
    (h : (o.awoken policy request none fires).1 = .waiting task attempt ∨
      (o.awoken policy request none fires).1 = .polling task attempt) :
    EndsWith (o.awoken policy request (some fires)) (.error (.poll (.cancelled task))) :=
  endsWith_awoken_some o policy request
    (.of_wake_eq (wake_watching_fired o policy request h _)
      (endsWith_releasing o policy request true task _ _))

theorem endsWith_of_releasing {fires : Nat} {task : String} {e : PollError}
    (h : (o.awoken policy request none fires).1 = .releasing task e) :
    EndsWith (o.awoken policy request (some fires)) (.error (.poll e)) := by
  refine endsWith_awoken_some o policy request ?_
  generalize o.awoken policy request none fires = w at h ⊢
  obtain ⟨stage, l⟩ := w
  obtain rfl : stage = .releasing task e := h
  exact endsWith_releasing o policy request true task e l

theorem ended_of_ended {fires : Nat} {outcome : Except AnalysisError Report}
    (h : (o.awoken policy request none fires).1 = .ended outcome) {count : Nat} (hCount : fires ≤ count) :
    (o.awoken policy request (some fires) count).1 = .ended outcome := by
  obtain ⟨more, rfl⟩ := Nat.exists_eq_add_of_le hCount
  rw [awoken_some_add]
  generalize o.awoken policy request none fires = w at h ⊢
  obtain ⟨stage, l⟩ := w
  obtain rfl : stage = .ended outcome := h
  rw [iterate_wake_ended]

/-- A token that fires between two wake-ups only cuts a submission short. One that has no answer yet ends
at once, one that has got a task gives it up, and one that has no question left ends as without the token;
and a client whose token does not fire does what a client without one does. -/
theorem cut_short (fires : Nat) :
    let plain := o.awoken policy request none
    let cut := o.awoken policy request (some fires)
    let diary := (plain fires).2.diary
    (∀ count, count ≤ fires → cut count = plain count) ∧
    (∀ count, fires ≤ count → Diary.efforts (cut count).2.diary = Diary.efforts diary ∧
      Diary.efforts diary <+: Diary.efforts (plain count).2.diary) ∧
    (∀ outcome, (plain fires).1 = .ended outcome →
      ∀ count, fires ≤ count → (cut count).1 = .ended outcome) ∧
    ((∀ outcome, (plain fires).1 ≠ .ended outcome) →
      ((∀ answer, ¬ Diary.Answered diary answer) → EndsWith cut (.error .cancelled)) ∧
      ∀ answer, Diary.Answered diary answer → ∃ task, answer = .ok (.task task) ∧
        (Diary.reports diary < policy.attempts → EndsWith cut (.error (.poll (.cancelled task)))) ∧
        (policy.attempts ≤ Diary.reports diary → (∀ count, cut count = plain count) ∧
          EndsWith cut (.error (.poll (.exhausted task policy.attempts))))) ∧
    ∀ c : Client, (c.submit request).2.isCancelled = false →
      c.untied.submit request = ((c.submit request).1, (c.submit request).2.untied) := by
  intro plain cut diary
  have hPrefix : ∀ count, fires ≤ count → Diary.efforts diary <+: Diary.efforts (plain count).2.diary :=
    fun count hCount => (diary_prefix_awoken none hCount).filterMap Entry.effort?
  refine ⟨fun count => awoken_eq_of_le, fun count hCount =>
    ⟨efforts_awoken_some o policy request hCount, hPrefix count hCount⟩, fun outcome hEnded count =>
    ended_of_ended o policy request hEnded, fun hGoesOn => ?_, fun c => Client.submit_untied⟩
  have hStage : (plain fires).1.Uncancelled policy diary := uncancelled_stage o policy request fires
  generalize hAt : (plain fires).1 = stage at hStage
  cases hStage with
  | asking hUnanswered =>
      exact ⟨fun _ => endsWith_of_asking o policy request hAt,
        fun answer hAnswered => absurd hAnswered (hUnanswered answer)⟩
  | watching hWatching hAnswer hMore =>
      refine ⟨fun hNone => absurd ((hAnswer _).mpr rfl) (hNone _), fun answer hAnswered =>
        ⟨_, (hAnswer answer).mp hAnswered, fun _ => ?_, fun hAll => absurd hMore (Nat.not_lt.mpr hAll)⟩⟩
      rw [← hAt] at hWatching
      exact endsWith_of_watching o policy request hWatching
  | exhausted hAnswer hAll =>
      have hNoMore : ¬ Diary.reports diary < policy.attempts := Nat.not_lt.mpr (Nat.le_of_eq hAll.symm)
      have hHeeds : (o.awoken policy request none fires).1.heeds = false := by
        rw [show (o.awoken policy request none fires).1 = _ from hAt]
        rfl
      exact ⟨fun hNone => absurd ((hAnswer _).mpr rfl) (hNone _), fun answer hAnswered =>
        ⟨_, (hAnswer answer).mp hAnswered, fun hMore => absurd hMore hNoMore, fun _ =>
          ⟨awoken_some_of_not_heeds o policy request hHeeds,
            endsWith_of_releasing o policy request hAt⟩⟩⟩
  | ended outcome => exact absurd hAt (hGoesOn outcome)

/-- A service that gives a task and lets it pend. Every answer takes until the second wake-up. -/
def slow : Outlook where
  analyzed _ := some (.ok (.task "1"))
  reported _ := some (.ok ⟨"PENDING", none⟩)
  elapses _ := true
  vain _ := 1

/-- The token fires while the answer is waited for, during the interval, and when the only question is
over. It does not fire in the hands of a client whose service is out of order. -/
theorem cut_short_slow :
    let policy : PollPolicy := ⟨1000, 1⟩
    let request : Request := ⟨"contract Vault \x7b\x7d", .solidity⟩
    let c : Client := ⟨.scripted ⟨[], [], [], [], []⟩, policy, .started (.ofDate (.newYear 2024)),
      some ⟨false, none⟩, 0⟩
    EndsWith (slow.awoken policy request (some 1)) (.error .cancelled) ∧
    EndsWith (slow.awoken policy request (some 2)) (.error (.poll (.cancelled "1"))) ∧
    EndsWith (slow.awoken policy request (some 4)) (.error (.poll (.exhausted "1" 1))) ∧
    (slow.awoken policy request (some 5) 7).1 = .ended (.error (.poll (.exhausted "1" 1))) ∧
    c.untied.submit request = ((c.submit request).1, (c.submit request).2.untied) := by
  intro policy request c
  have hOpen : (c.submit request).2.isCancelled = false := rfl
  have hClient : c.untied.submit request = ((c.submit request).1, (c.submit request).2.untied) :=
    (cut_short slow policy request 0).2.2.2.2 c hOpen
  have hAnswered : Diary.Answered (slow.awoken policy request none 2).2.diary (.ok (.task "1")) :=
    .tail _ (.head _)
  have hPending : Stage.reported policy "1" 1 (.ok ⟨"PENDING", none⟩) =
      .releasing "1" (.exhausted "1" 1) := Stage.reported_of_pending policy "1" 1 ⟨_, rfl, by decide⟩
  have hPolling : slow.awoken policy request none 3 = (.polling "1" 1,
      ⟨Diary.watching policy request "1" [] ++ Diary.question policy "1", some 0⟩) := rfl
  have hExhausted : slow.awoken policy request none 4 = (.releasing "1" (.exhausted "1" 1),
      ⟨Diary.watching policy request "1" [⟨"PENDING", none⟩] ++ [.began (.call (.release "1"))],
        some 0⟩) := by
    rw [awoken, wake, hPolling]
    simp [Stage.carryOn, Stage.remaining, Stage.heeds, Stage.action?, Stage.step, react, begin, event?,
      slow, hPending, Diary.watching, Diary.round]
  have hEnded : (slow.awoken policy request none 5).1 =
      .ended (.error (.poll (.exhausted "1" 1))) := by
    rw [awoken, hExhausted]
    rfl
  refine ⟨?_, ?_, ?_, ?_, hClient⟩
  · have hStage : (slow.awoken policy request none 1).1 = .asking := rfl
    have hDiary : (slow.awoken policy request none 1).2.diary = [.began (.call (.analyze request))] := rfl
    obtain ⟨hUnanswered, _⟩ := (cut_short slow policy request 1).2.2.2.1 (by simp [hStage])
    exact hUnanswered (by simp [Diary.Answered, hDiary])
  · have hStage : (slow.awoken policy request none 2).1 = .waiting "1" 1 := rfl
    obtain ⟨task, hTask, hMore, _⟩ :=
      ((cut_short slow policy request 2).2.2.2.1 (by simp [hStage])).2 _ hAnswered
    cases hTask
    exact hMore Nat.one_pos
  · have hLater : Diary.Answered (slow.awoken policy request none 4).2.diary (.ok (.task "1")) :=
      (diary_prefix_awoken none (by decide)).subset hAnswered
    have hReports : Diary.reports (slow.awoken policy request none 4).2.diary = 1 := by
      rw [hExhausted]
      rfl
    obtain ⟨task, hTask, _, hAll⟩ :=
      ((cut_short slow policy request 4).2.2.2.1 (by simp [hExhausted])).2 _ hLater
    cases hTask
    exact (hAll (Nat.le_of_eq hReports.symm)).2
  · exact (cut_short slow policy request 5).2.2.1 _ hEnded 7 (by decide)

end Outlook

end AuditDesk.Service
