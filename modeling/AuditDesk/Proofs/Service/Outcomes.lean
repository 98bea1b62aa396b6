import AuditDesk.Proofs.Service.Crowd
import Mathlib.Logic.Relation

/-! What the submissions to one simulated service come to. Whatever their order and whichever of them are
cancelled, each ends with the report made for it or for a reason of its own, and after the last one the
service has no task left and the reports of those that succeeded in its history. -/
namespace AuditDesk.Service

namespace Crowd

open Simulation (Handed MadeFor)

variable {ι : Type} {identifiers : Nat → String} {polls : Option Nat} {c d : Crowd ι} {i : ι}

section Alone

variable {m : Submission} {stage : Stage}

/-- A change that the service does not notice. -/
theorem Change.alone (hRequest : m.request = (c.member i).request) (hMade : m.made = (c.member i).made)
    (hTask : m.stage.task? = (c.member i).stage.task?)
    (hReport : m.stage.report? = (c.member i).stage.report?) (hStands : m.Stands c.service) :
    Change identifiers c i m c.service where
  pendingPolls := rfl
  issued := Nat.le_refl _
  request := hRequest
  stands := hStands
  others := fun _ _ => rfl
  task := fun _ h => .inl (hTask ▸ h)
  kept := fun _ h _ => hTask.trans (h.resolve_right Simulation.not_handed_self)
  made := fun _ h => .inl (hMade ▸ h)
  history := .inl ⟨rfl, hReport⟩

theorem Change.fires (h : (c.member i).Stands c.service) :
    Change identifiers c i { c.member i with fired := true } c.service :=
  .alone rfl rfl rfl rfl h.fires

theorem Change.stops (hFired : (c.member i).fired = true)
    (hStage : (c.member i).stage.step (c.member i).policy .cancelled = some stage) :
    Change identifiers c i { c.member i with stage := stage } c.service := by
  cases hBefore : (c.member i).stage with
  | asking | waiting _ _ | polling _ _ =>
      rw [hBefore] at hStage
      cases hStage
      exact .alone rfl rfl (by rw [hBefore]; rfl) (by rw [hBefore]; rfl) (.inl ⟨hFired, rfl⟩)
  | releasing _ _ | ended _ =>
      rw [hBefore] at hStage
      cases hStage

theorem Change.elapses (h : (c.member i).Stands c.service)
    (hStage : (c.member i).stage.step (c.member i).policy .elapsed = some stage) :
    Change identifiers c i { c.member i with stage := stage } c.service := by
  cases hBefore : (c.member i).stage with
  | waiting task attempt =>
      rw [hBefore] at hStage
      cases hStage
      simp only [Submission.Stands, hBefore] at h
      exact .alone rfl rfl (by rw [hBefore]; rfl) (by rw [hBefore]; rfl) h
  | asking | polling _ _ | releasing _ _ | ended _ =>
      rw [hBefore] at hStage
      cases hStage

end Alone

section Answers

variable (hIdentifiers : Function.Injective identifiers) (h : c.Sound identifiers polls) {now : Timestamp}
  {task : String} {attempt : Nat}
include hIdentifiers h

/-- Nothing is known yet of a task that can concern a submission before it is answered. -/
theorem Sound.lookup_of_asking (hBefore : (c.member i).stage = .asking) {s : Simulation}
    (hConcerns : Concerns identifiers c i s task) : c.service.tasks.lookup task = none := by
  rcases hConcerns with hOwn | hNew
  · rw [hBefore] at hOwn
    cases hOwn
  · by_contra hKnown
    obtain ⟨j, hTask⟩ := h.owned task (Option.isSome_iff_ne_none.mpr hKnown)
    exact (h.issued j task hTask).not_again hIdentifiers hNew

/-- The submission is answered with the report. -/
theorem Sound.completes (hBefore : (c.member i).stage = .asking) (hPolls : c.service.pendingPolls = none)
    (hYear : 0 ≤ now.date.year ∧ now.date.year ≤ 9999) :
    let made := Simulation.report (identifiers c.service.issued) now (c.member i).request
    Change identifiers c i { c.member i with stage := .ended (.ok made), made := some made }
      (c.service.analyze identifiers now (c.member i).request).2 := by
  simp only [Simulation.analyze, hPolls]
  refine ⟨hPolls.symm, Nat.le_succ _, rfl, ⟨rfl, fun _ hSome => ?_⟩, fun _ _ => rfl, fun _ hTask => ?_,
    fun task hConcerns hKnown => ?_, fun report hMade => ?_, .inr ⟨_, ?_, rfl, rfl⟩⟩
  · cases hSome
  · cases hTask
  · rw [h.lookup_of_asking hIdentifiers hBefore hConcerns] at hKnown
    cases hKnown
  · cases hMade
    exact .inr ⟨_, now, ⟨_, Nat.le_refl _, Nat.lt_succ_self _, rfl⟩, hYear, rfl⟩
  · rw [hBefore]
    rfl

/-- The submission is answered with a task. -/
theorem Sound.begins (hBefore : (c.member i).stage = .asking) {n : Nat}
    (hPolls : c.service.pendingPolls = some n) (hYear : 0 ≤ now.date.year ∧ now.date.year ≤ 9999) :
    Change identifiers c i
      { c.member i with
        stage := .next (c.member i).policy (identifiers (c.service.issued + 1)) 0
        made := some (Simulation.report (identifiers c.service.issued) now (c.member i).request) }
      (c.service.analyze identifiers now (c.member i).request).2 := by
  have hLookup := Simulation.lookup_analyze identifiers hPolls now (c.member i).request
  simp only [Simulation.analyze, hPolls] at hLookup ⊢
  have hHanded : Handed identifiers c.service.issued (c.service.issued + 2)
      (identifiers (c.service.issued + 1)) := ⟨_, Nat.le_succ _, Nat.lt_succ_self _, rfl⟩
  have hStands := h.stands i
  simp only [Submission.Stands, hBefore] at hStands
  refine ⟨hPolls.symm, Nat.le_add_right _ 2, rfl, ?_, fun other hOther => ?_, fun other hOther => ?_,
    fun other hConcerns hKnown => ?_, fun report hMade => ?_, .inl ⟨rfl, ?_⟩⟩
  · rw [← hStands.1]
    refine Submission.stands_next (m := { c.member i with made := some _ }) ⟨n, _, ?_, ?_, rfl⟩ ?_
    · rw [hStands.1, Nat.zero_add]
    · exact (hLookup _).trans (if_pos rfl)
    · rw [hStands.1]
      exact Nat.zero_le _
  · refine (hLookup other).trans (if_neg fun hSame => hOther (.inr ?_))
    rw [hSame]
    exact hHanded
  · rw [Stage.task?_next] at hOther
    cases hOther
    exact .inr hHanded
  · rw [Stage.task?_next]
    rw [hLookup other] at hKnown
    split at hKnown
    · rename_i hSame
      rw [hSame]
    · rw [h.lookup_of_asking hIdentifiers hBefore hConcerns] at hKnown
      cases hKnown
  · cases hMade
    exact .inr ⟨_, now, ⟨_, Nat.le_refl _, by simp, rfl⟩, hYear, rfl⟩
  · rw [hBefore]
    exact Stage.report?_next _ _ _

end Answers

section Own

variable {m : Submission} {s : Simulation} {task : String}

/-- The service changes no task but the one of the submission, which stays out or is gone. -/
theorem Change.own (hBefore : (c.member i).stage.task? = some task)
    (hPolls : s.pendingPolls = c.service.pendingPolls) (hIssued : s.issued = c.service.issued)
    (hRequest : m.request = (c.member i).request) (hMade : m.made = (c.member i).made)
    (hOthers : ∀ other, other ≠ task → s.tasks.lookup other = c.service.tasks.lookup other)
    (hAfter : m.stage.task? = some task ∨ m.stage.task? = none ∧ s.tasks.lookup task = none)
    (hHistory : (s.history = c.service.history ∧ m.stage.report? = none) ∨
      ∃ report, m.stage.report? = some report ∧ s.history = report :: c.service.history)
    (hStands : m.Stands s) : Change identifiers c i m s := by
  have hReport : (c.member i).stage.report? = none := by
    cases hStage : (c.member i).stage with
    | ended _ =>
        rw [hStage] at hBefore
        cases hBefore
    | asking | waiting _ _ | polling _ _ | releasing _ _ => rfl
  have hConcerns : ∀ other, Concerns identifiers c i s other ↔ other = task := by
    intro other
    rw [Concerns, hIssued, hBefore, Option.some.injEq, eq_comm]
    exact or_iff_left Simulation.not_handed_self
  refine ⟨hPolls, Nat.le_of_eq hIssued.symm, hRequest, hStands, fun other hOther => ?_,
    fun other hOther => ?_, fun other hOther hKnown => ?_, fun _ h => .inl (hMade ▸ h), ?_⟩
  · exact hOthers other fun hSame => hOther ((hConcerns other).mpr hSame)
  · rcases hAfter with hOut | ⟨hGone, _⟩
    · exact (hConcerns other).mpr (Option.some.inj (hOther.symm.trans hOut))
    · rw [hGone] at hOther
      cases hOther
  · rw [(hConcerns other).mp hOther] at hKnown ⊢
    rcases hAfter with hOut | ⟨_, hGone⟩
    · exact hOut
    · rw [hGone] at hKnown
      cases hKnown
  · rcases hHistory with ⟨hSame, hNone⟩ | ⟨report, hSome, hNew⟩
    · exact .inl ⟨hSame, hNone.trans hReport.symm⟩
    · exact .inr ⟨report, hReport, hSome, hNew⟩

variable (h : c.Sound identifiers polls)
include h

/-- The question is answered: there are more to come, or here is the report. -/
theorem Sound.asks {attempt : Nat} {stage : Stage} (hBefore : (c.member i).stage = .polling task attempt)
    (hStage : Stage.reported (c.member i).policy task attempt (c.service.status task).1 = stage) :
    Change identifiers c i { c.member i with stage := stage, asked := (c.member i).asked + 1 }
      (c.service.status task).2 := by
  have hStands := h.stands i
  simp only [Submission.Stands, hBefore] at hStands
  obtain ⟨⟨left, made, hPolls, hLookup, hMade⟩, rfl, hMore⟩ := hStands
  have hOwn : (c.member i).stage.task? = some task := by rw [hBefore]; rfl
  have hSame := Simulation.pendingPolls_status c.service task
  have hIssued := Simulation.issued_status c.service task
  have hAfter := Simulation.lookup_status c.service task
  have hOthers : ∀ other, other ≠ task →
      (c.service.status task).2.tasks.lookup other = c.service.tasks.lookup other :=
    fun other hOther => (hAfter other).trans (if_neg hOther)
  replace hAfter := (hAfter task).trans (if_pos rfl)
  rw [hLookup] at hAfter
  cases left with
  | zero =>
      obtain ⟨hAnswer, hHistory⟩ := Simulation.status_of_finished hLookup
      rw [hAnswer, Stage.reported_finished _ _ _ (h.made i made hMade).sendable] at hStage
      subst hStage
      refine .own hOwn hSame hIssued rfl rfl hOthers (.inr ⟨rfl, hAfter⟩) (.inr ⟨made, rfl, hHistory⟩)
        ⟨hMade, fun n hSome => ?_⟩
      rw [hSame, hPolls] at hSome
      cases hSome
      exact ⟨hMore, rfl⟩
  | succ left =>
      obtain ⟨hAnswer, hHistory⟩ := Simulation.status_of_pending hLookup
      rw [hAnswer, Stage.reported_pending] at hStage
      subst hStage
      refine .own hOwn hSame hIssued rfl rfl hOthers (.inl (Stage.task?_next _ _ _))
        (.inl ⟨hHistory, Stage.report?_next _ _ _⟩) ?_
      refine Submission.stands_next (m := { c.member i with asked := _ }) ⟨left, made, ?_, hAfter, hMade⟩
        hMore
      rw [hSame, hPolls]
      exact congrArg some (Nat.add_right_comm _ left 1)

theorem Sound.releases {e : PollError} (hBefore : (c.member i).stage = .releasing task e) :
    Change identifiers c i { c.member i with stage := .ended (.error (.poll e)) }
      (c.service.forget task) := by
  have hStands := h.stands i
  simp only [Submission.Stands, hBefore] at hStands
  have hLookup := Simulation.lookup_forget c.service task
  refine .own (by rw [hBefore]; rfl) rfl rfl rfl rfl (fun other hOther => ?_) (.inr ⟨rfl, ?_⟩)
    (.inl ⟨rfl, rfl⟩) hStands
  · exact (hLookup other).trans (if_neg hOther)
  · exact (hLookup task).trans (if_pos rfl)

end Own

theorem Sound.answers (hIdentifiers : Function.Injective identifiers) (h : c.Sound identifiers polls)
    {call : Call} {now : Timestamp} {stage : Stage}
    (hCall : (c.member i).stage.action? (c.member i).policy (c.member i).request = some (.call call))
    (hYear : 0 ≤ now.date.year ∧ now.date.year ≤ 9999)
    (hStage : (c.member i).stage.step (c.member i).policy
      (.reply (c.service.reply identifiers now call).1) = some stage) :
    Change identifiers c i
      ((c.member i).answered call
        (Simulation.report (identifiers c.service.issued) now (c.member i).request) stage)
      (c.service.reply identifiers now call).2 := by
  cases hBefore : (c.member i).stage with
  | asking =>
      rw [hBefore] at hCall
      cases hCall
      rw [hBefore] at hStage
      cases hPolls : c.service.pendingPolls with
      | none =>
          simp only [Simulation.reply, Simulation.analyze, hPolls] at hStage
          cases hStage
          exact h.completes hIdentifiers hBefore hPolls hYear
      | some n =>
          simp only [Simulation.reply, Simulation.analyze, hPolls] at hStage
          cases hStage
          exact h.begins hIdentifiers hBefore hPolls hYear
  | polling task attempt =>
      rw [hBefore] at hCall hStage
      cases hCall
      exact h.asks hBefore (Option.some.inj hStage)
  | releasing task e =>
      rw [hBefore] at hCall hStage
      cases hCall
      cases hStage
      exact h.releases hBefore
  | waiting _ _ | ended _ =>
      rw [hBefore] at hCall
      cases hCall

/-- The history consists of the reports of those that have ended with one, the latest first and each
once. -/
structure Recorded (c : Crowd ι) : Prop where
  once : c.finished.Nodup
  finished : ∀ i, i ∈ c.finished ↔ ∃ report, (c.member i).stage = .ended (.ok report)
  reports : c.service.history.map some = c.finished.map fun i => (c.member i).stage.report?
  distinct : c.service.history.Nodup

section Ends

variable (h : c.Sound identifiers polls)
include h

theorem Sound.tasks_eq_nil (hEnded : ∀ i, (c.member i).hasEnded) : c.service.tasks = [] := by
  refine Simulation.tasks_eq_nil_of_lookup fun task => ?_
  by_contra hKnown
  obtain ⟨i, hTask⟩ := h.owned task (Option.isSome_iff_ne_none.mpr hKnown)
  obtain ⟨outcome, hStage⟩ := hEnded i
  rw [hStage] at hTask
  cases hTask

theorem Sound.mem_finished_iff :
    i ∈ c.finished ↔ ∃ report, (c.member i).stage = .ended (.ok report) := by
  constructor
  · intro hMem
    have hReport := List.mem_map_of_mem (f := fun j => (c.member j).stage.report?) hMem
    rw [← h.recorded] at hReport
    obtain ⟨report, _, hSome⟩ := List.mem_map.mp hReport
    exact ⟨report, Stage.report?_eq_some_iff.mp hSome.symm⟩
  · rintro ⟨report, hStage⟩
    exact h.all i (by rw [hStage]; rfl)

theorem Sound.made_of_ended {report : Report} (hStage : (c.member i).stage = .ended (.ok report)) :
    (c.member i).made = some report ∧
      ∀ n, c.service.pendingPolls = some n →
        n < (c.member i).policy.attempts ∧ (c.member i).asked = n + 1 := by
  have hStands := h.stands i
  simpa only [Submission.Stands, hStage] using hStands

theorem Sound.fails_of_ended {e : AnalysisError} (hStage : (c.member i).stage = .ended (.error e)) :
    (c.member i).Fails c.service e := by
  have hStands := h.stands i
  simpa only [Submission.Stands, hStage] using hStands

theorem Sound.history_nodup : c.service.history.Nodup := by
  refine List.Nodup.of_map some ?_
  rw [h.recorded]
  refine List.Nodup.map_on (fun i hi j hj hSame => ?_) h.once
  obtain ⟨report, hFirst⟩ := h.mem_finished_iff.mp hi
  have hSecond : (c.member j).stage = .ended (.ok report) := by
    rw [← Stage.report?_eq_some_iff, ← hSame, Stage.report?_eq_some_iff]
    exact hFirst
  exact h.madeApart i j report (h.made_of_ended hFirst).1 (h.made_of_ended hSecond).1

theorem Sound.recorded_all : c.Recorded :=
  ⟨h.once, fun _ => h.mem_finished_iff, h.recorded, h.history_nodup⟩

end Ends

/-- A submission that has not ended waits for an interval to pass or has a call that is answered. -/
theorem waits_or_calls (hGoesOn : ¬ (c.member i).hasEnded) (now : Timestamp) :
    (∃ stage, (c.member i).stage.step (c.member i).policy .elapsed = some stage) ∨
      ∃ call stage,
        (c.member i).stage.action? (c.member i).policy (c.member i).request = some (.call call) ∧
          (c.member i).stage.step (c.member i).policy
            (.reply (c.service.reply identifiers now call).1) = some stage := by
  cases hBefore : (c.member i).stage with
  | waiting _ _ => exact .inl ⟨_, rfl⟩
  | asking | polling _ _ | releasing _ _ => exact .inr ⟨_, _, rfl, rfl⟩
  | ended outcome => exact absurd ⟨outcome, hBefore⟩ hGoesOn

section Run

variable [DecidableEq ι]

theorem Sound.step (hIdentifiers : Function.Injective identifiers) (h : c.Sound identifiers polls)
    (hStep : c.Step identifiers i d) : d.Sound identifiers polls := by
  cases hStep with
  | fires => exact h.put hIdentifiers (.fires (h.stands i))
  | stops hFired hStage => exact h.put hIdentifiers (.stops hFired hStage)
  | elapses hStage => exact h.put hIdentifiers (.elapses (h.stands i) hStage)
  | answers hCall hYear hStage =>
      exact h.put hIdentifiers (h.answers hIdentifiers hCall hYear hStage)

theorem Run.sound {delay : Nat} (hIdentifiers : Function.Injective identifiers)
    (h : c.Run identifiers delay polls) : c.Sound identifiers polls := by
  induction h with
  | start request policy =>
      exact ⟨rfl, fun _ => ⟨rfl, rfl⟩, nofun, nofun, nofun, nofun, nofun, rfl, List.nodup_nil, nofun⟩
  | step _ hStep ih => exact ih.step hIdentifiers hStep

/-- A submission that has not ended can come nearer to its end without being cancelled. -/
theorem exists_nearer (hGoesOn : ¬ (c.member i).hasEnded) {now : Timestamp}
    (hYear : 0 ≤ now.date.year ∧ now.date.year ≤ 9999) :
    ∃ d, c.Step identifiers i d ∧ (d.member i).fired = (c.member i).fired ∧
      (d.member i).remaining < (c.member i).remaining := by
  rcases waits_or_calls hGoesOn now with ⟨stage, hStage⟩ | ⟨call, stage, hCall, hStage⟩
  · refine ⟨_, .elapses hStage, ?_⟩
    rw [member_put_self]
    exact ⟨rfl, Stage.remaining_step_lt _ hStage⟩
  · refine ⟨_, .answers hCall hYear hStage, ?_⟩
    obtain ⟨hRemaining, hFired⟩ := Submission.remaining_answered (c.member i) call
      (Simulation.report (identifiers c.service.issued) now (c.member i).request) stage
    rw [member_put_self, hRemaining, hFired]
    exact ⟨rfl, Stage.remaining_step_lt _ hStage⟩

/-- From wherever it is, a submission comes to its end by steps of its own, cancelled or not. -/
theorem exists_ended (c : Crowd ι) (i : ι) {now : Timestamp}
    (hYear : 0 ≤ now.date.year ∧ now.date.year ≤ 9999) :
    ∃ d, Relation.ReflTransGen (Step identifiers i) c d ∧ (d.member i).hasEnded ∧
      (d.member i).fired = (c.member i).fired := by
  induction hRemaining : (c.member i).remaining using Nat.strongRecOn generalizing c with
  | _ n ih =>
      by_cases hEnded : (c.member i).hasEnded
      · exact ⟨c, .refl, hEnded, rfl⟩
      · obtain ⟨next, hStep, hFired, hNearer⟩ := exists_nearer hEnded hYear
        obtain ⟨d, hSteps, hLast, hSame⟩ := ih _ (hRemaining ▸ hNearer) next rfl
        exact ⟨d, .head hStep hSteps, hLast, hSame.trans hFired⟩

/-- Whatever order submissions to a fresh service take their steps in, and whichever are cancelled, each
report is the one made for its submission's own source, the service has recorded just these reports, and
no task is left once all have ended. A submission that is not cancelled has its report exactly if it may
ask more often than a task is pending, and has then asked once more than that. Every failure has its
reason, and a submission can always come to its end. -/
theorem outcomes_of_run {delay : Nat} (hIdentifiers : Function.Injective identifiers)
    (h : c.Run identifiers delay polls) :
    (∀ i report, (c.member i).stage = .ended (.ok report) →
      (c.member i).made = some report ∧ report.contractCode = some (c.member i).request.code ∧
        MadeFor identifiers 0 c.service.issued (c.member i).request report) ∧
    c.Recorded ∧
    ((∀ i, (c.member i).hasEnded) → c.service.tasks = []) ∧
    (∀ i n outcome, polls = some n → (c.member i).fired = false →
      (c.member i).stage = .ended outcome →
        if n < (c.member i).policy.attempts then
          (c.member i).asked = n + 1 ∧ ∃ report, outcome = .ok report
        else
          (c.member i).asked = (c.member i).policy.attempts ∧
            ∃ task, outcome = .error (.poll (.exhausted task (c.member i).policy.attempts))) ∧
    (∀ i e, (c.member i).stage = .ended (.error e) → (c.member i).Fails c.service e) ∧
    (∀ i (now : Timestamp), 0 ≤ now.date.year ∧ now.date.year ≤ 9999 → ∃ d : Crowd ι,
      Relation.ReflTransGen (Step identifiers i) c d ∧ (d.member i).hasEnded ∧
        (d.member i).fired = (c.member i).fired) := by
  have hSound := h.sound hIdentifiers
  refine ⟨fun i report hStage => ?_, hSound.recorded_all, hSound.tasks_eq_nil,
    fun i n outcome hPolls hQuiet hStage => ?_, fun _ _ => hSound.fails_of_ended,
    fun i _ => exists_ended c i⟩
  · obtain ⟨hMade, _⟩ := hSound.made_of_ended hStage
    have hOwn := hSound.made i report hMade
    refine ⟨hMade, ?_, hOwn⟩
    obtain ⟨_, _, _, _, rfl⟩ := hOwn
    rfl
  · rw [← hSound.pendingPolls] at hPolls
    cases outcome with
    | ok report =>
        obtain ⟨hFew, hAsked⟩ := (hSound.made_of_ended hStage).2 n hPolls
        rw [if_pos hFew]
        exact ⟨hAsked, report, rfl⟩
    | error e =>
        rcases hSound.fails_of_ended hStage with ⟨hFired, _⟩ | ⟨k, task, hSome, hMany, hAsked, rfl⟩
        · rw [hQuiet] at hFired
          cases hFired
        · rw [hPolls] at hSome
          cases hSome
          rw [if_neg (Nat.not_lt.mpr hMany)]
          exact ⟨hAsked, task, rfl⟩

/-- The last question brings the report. -/
theorem Step.reports {now : Timestamp} (hYear : 0 ≤ now.date.year ∧ now.date.year ≤ 9999) {task : String}
    {attempt : Nat} (hBefore : (c.member i).stage = .polling task attempt) {made : Report}
    (hLookup : c.service.tasks.lookup task = some ⟨0, made⟩) (hSendable : Wire.Sendable made) :
    c.Step identifiers i
      (c.put i { c.member i with stage := .ended (.ok made), asked := (c.member i).asked + 1 }
        (c.service.status task).2) := by
  have hCall : (c.member i).stage.action? (c.member i).policy (c.member i).request =
      some (.call (.status task)) := by rw [hBefore]; rfl
  have hStage : (c.member i).stage.step (c.member i).policy
      (.reply (c.service.reply identifiers now (.status task)).1) = some (.ended (.ok made)) := by
    rw [hBefore, ← Stage.reported_finished (c.member i).policy task attempt hSendable,
      ← (Simulation.status_of_finished hLookup).1]
    rfl
  exact .answers hCall hYear hStage

end Run

/-- Two submissions that may each ask once, to a service whose tasks are never pending. -/
def twoOpening : Crowd Bool :=
  ⟨.start 2000 (some 0), fun other =>
    .opening ⟨if other = true then "contract B {}" else "contract A {}", .solidity⟩ ⟨2000, 1⟩, []⟩

/-- One of two submissions is cancelled before it is answered, the other one has its report. -/
theorem outcomes_of_run_cancelled : ∃ c : Crowd Bool,
    Function.Injective Simulation.identifier ∧ c.Run Simulation.identifier 2000 (some 0) ∧
      (∀ i, (c.member i).hasEnded) ∧ (c.member true).stage = .ended (.error .cancelled) ∧
      c.service.tasks = [] ∧ c.finished = [false] ∧ c.service.history.length = 1 ∧
      (c.member false).asked = 1 := by
  have hYear : 0 ≤ (Timestamp.ofDate (.newYear 2024)).date.year ∧
      (Timestamp.ofDate (.newYear 2024)).date.year ≤ 9999 := by decide
  have hOpening : twoOpening.Run Simulation.identifier 2000 (some 0) := .start _ _
  have hFired := hOpening.step (.fires (i := true))
  have hStopped := hFired.step (.stops (i := true) rfl rfl)
  have hHanded := hStopped.step (.answers (i := false) rfl hYear rfl)
  have hElapsed := hHanded.step (.elapses (i := false) rfl)
  have hReported := hElapsed.step (.reports (i := false) hYear rfl List.lookup_cons_self
    (Simulation.report_sendable _ _ hYear))
  obtain ⟨_, hRecorded, hTasks, hQuiet, _, _⟩ := outcomes_of_run Simulation.identifier_injective hReported
  have hCount := congrArg List.length hRecorded.reports
  rw [List.length_map, List.length_map] at hCount
  refine ⟨_, Simulation.identifier_injective, hReported, ?ended, rfl, hTasks ?ended, rfl, hCount, ?_⟩
  · rintro (_ | _)
    · exact ⟨_, rfl⟩
    · exact ⟨_, rfl⟩
  · exact (hQuiet false 0 _ rfl rfl rfl).1

end Crowd

end AuditDesk.Service
