import AuditDesk.Proofs.Service.Tasks
import Mathlib.Data.List.Nodup

/-! Any number of submissions to one simulated service, in any order of their steps and with any of them
cancelled at any time. Each task belongs to the one submission that waits for it and leaves the service
together with it, and what the service has recorded is what the submissions ended with. -/
namespace AuditDesk.Service

namespace Stage

/-- The task that is out. -/
def task? : Stage → Option String
  | .waiting task _ | .polling task _ | .releasing task _ => some task
  | .asking | .ended _ => none

def report? : Stage → Option Report
  | .ended (.ok report) => some report
  | _ => none

theorem report?_eq_some_iff {stage : Stage} {report : Report} :
    stage.report? = some report ↔ stage = .ended (.ok report) := by
  unfold report?
  split
  · simp
  · rename_i hOther
    exact ⟨nofun, fun hStage => absurd hStage (hOther report)⟩

variable (policy : PollPolicy) (task : String) (asked : Nat)

theorem task?_next : (next policy task asked).task? = some task := by
  unfold next
  split <;> rfl

theorem report?_next : (next policy task asked).report? = none := by
  unfold next
  split <;> rfl

end Stage

structure Submission where
  request : Request
  policy : PollPolicy
  stage : Stage
  /-- The user has cancelled it. -/
  fired : Bool
  /-- How many questions have been answered. -/
  asked : Nat
  /-- The report that the service has made for it. -/
  made : Option Report

namespace Submission

def opening (request : Request) (policy : PollPolicy) : Submission :=
  ⟨request, policy, .asking, false, 0, none⟩

def hasEnded (m : Submission) : Prop := ∃ outcome, m.stage = .ended outcome

/-- A call is answered, which leads to a stage. A report is made for no other call than the first. -/
def answered (m : Submission) (call : Call) (made : Report) (stage : Stage) : Submission :=
  match call with
  | .analyze _ => { m with stage := stage, made := some made }
  | .status _ => { m with stage := stage, asked := m.asked + 1 }
  | .history | .render _ _ | .release _ => { m with stage := stage }

/-- An upper bound on the steps until the end, cancellation apart. -/
def remaining (m : Submission) : Nat := m.stage.remaining m.policy

theorem remaining_answered (m : Submission) (call : Call) (made : Report) (stage : Stage) :
    (m.answered call made stage).remaining = stage.remaining m.policy ∧
      (m.answered call made stage).fired = m.fired := by
  cases call <;> exact ⟨rfl, rfl⟩

/-- The service keeps the task that the submission waits for, with its report and with as many questions
to go as tasks are made for less those that have been answered. -/
def Watches (m : Submission) (s : Simulation) (task : String) : Prop :=
  ∃ left made, s.pendingPolls = some (m.asked + left) ∧ s.tasks.lookup task = some ⟨left, made⟩ ∧
    m.made = some made

/-- There is a reason for this failure: the submission was cancelled, or tasks are made for more
questions than it could ask. -/
def Fails (m : Submission) (s : Simulation) (e : AnalysisError) : Prop :=
  (m.fired = true ∧ e.isCancelled = true) ∨
    ∃ n task, s.pendingPolls = some n ∧ m.policy.attempts ≤ n ∧ m.asked = m.policy.attempts ∧
      e = .poll (.exhausted task m.policy.attempts)

/-- How a submission stands to the service, by its stage. -/
def Stands (m : Submission) (s : Simulation) : Prop :=
  match m.stage with
  | .asking => m.asked = 0 ∧ m.made = none
  | .waiting task attempt | .polling task attempt =>
      m.Watches s task ∧ attempt = m.asked + 1 ∧ attempt ≤ m.policy.attempts
  | .releasing _ e => m.Fails s (.poll e)
  | .ended (.ok report) =>
      m.made = some report ∧ ∀ n, s.pendingPolls = some n → n < m.policy.attempts ∧ m.asked = n + 1
  | .ended (.error e) => m.Fails s e

section Stands

variable {m : Submission} {s : Simulation}

/-- Of the service only the task that is out matters. -/
theorem Stands.of_lookup (h : m.Stands s) {after : Simulation}
    (hPolls : after.pendingPolls = s.pendingPolls)
    (hSame : ∀ task, m.stage.task? = some task → after.tasks.lookup task = s.tasks.lookup task) :
    m.Stands after := by
  obtain ⟨request, policy, stage, fired, asked, made⟩ := m
  cases stage with
  | asking => exact h
  | waiting task attempt | polling task attempt =>
      simpa only [Stands, Watches, hPolls, hSame task rfl] using h
  | releasing task e => simpa only [Stands, Fails, hPolls] using h
  | ended outcome => cases outcome <;> simpa only [Stands, Fails, hPolls] using h

theorem Stands.fires (h : m.Stands s) : Stands { m with fired := true } s := by
  obtain ⟨request, policy, stage, fired, asked, made⟩ := m
  cases stage with
  | asking | waiting _ _ | polling _ _ => exact h
  | releasing task e => exact h.imp (fun hCancelled => ⟨rfl, hCancelled.2⟩) id
  | ended outcome =>
      cases outcome with
      | error e => exact h.imp (fun hCancelled => ⟨rfl, hCancelled.2⟩) id
      | ok report => exact h

theorem stands_next {task : String} (hWatches : m.Watches s task)
    (hAsked : m.asked ≤ m.policy.attempts) :
    Stands { m with stage := .next m.policy task m.asked } s := by
  unfold Stage.next
  split
  · rename_i hMore
    exact ⟨hWatches, rfl, hMore⟩
  · rename_i hLast
    obtain ⟨left, report, hPolls, _, _⟩ := hWatches
    have hAll : m.asked = m.policy.attempts := by omega
    exact .inr ⟨m.asked + left, task, hPolls, by simp [← hAll], hAll, by rw [hAll]⟩

end Stands

end Submission

/-- Submissions to one service, and those that have ended with a report, the latest first. -/
structure Crowd (ι : Type) where
  service : Simulation
  member : ι → Submission
  finished : List ι

namespace Crowd

open Simulation (Handed MadeFor)

variable {ι : Type}

/-- One submission changes, with the service or without it. -/
def put [DecidableEq ι] (c : Crowd ι) (i : ι) (m : Submission) (s : Simulation) : Crowd ι where
  service := s
  member := fun other => if other = i then m else c.member other
  finished := if m.stage.report?.isSome ∧ (c.member i).stage.report? = none then i :: c.finished
    else c.finished

/-- What a submission can do next. A call has its effect on the service at the moment when it is
answered; the identifiers are numbered in the order of these moments. -/
inductive Step [DecidableEq ι] (identifiers : Nat → String) (i : ι) (c : Crowd ι) : Crowd ι → Prop
  | fires : Step identifiers i c (c.put i { c.member i with fired := true } c.service)
  | stops {stage : Stage} (hFired : (c.member i).fired = true)
      (hStage : (c.member i).stage.step (c.member i).policy .cancelled = some stage) :
      Step identifiers i c (c.put i { c.member i with stage := stage } c.service)
  | elapses {stage : Stage}
      (hStage : (c.member i).stage.step (c.member i).policy .elapsed = some stage) :
      Step identifiers i c (c.put i { c.member i with stage := stage } c.service)
  | answers {call : Call} {now : Timestamp} {stage : Stage}
      (hCall : (c.member i).stage.action? (c.member i).policy (c.member i).request =
        some (.call call))
      (hYear : 0 ≤ now.date.year ∧ now.date.year ≤ 9999)
      (hStage : (c.member i).stage.step (c.member i).policy
        (.reply (c.service.reply identifiers now call).1) = some stage) :
      Step identifiers i c (c.put i
        ((c.member i).answered call
          (Simulation.report (identifiers c.service.issued) now (c.member i).request) stage)
        (c.service.reply identifiers now call).2)

/-- What a fresh service and any submissions to it can come to. -/
inductive Run [DecidableEq ι] (identifiers : Nat → String) (delay : Nat) (polls : Option Nat) :
    Crowd ι → Prop
  | start (request : ι → Request) (policy : ι → PollPolicy) :
      Run identifiers delay polls
        ⟨.start delay polls, fun i => .opening (request i) (policy i), []⟩
  | step {c d : Crowd ι} {i : ι} (hBefore : Run identifiers delay polls c)
      (hStep : c.Step identifiers i d) : Run identifiers delay polls d

/-- What holds in a crowd at any time. Every task of the service is out for one submission, every report
was made for one submission, and those that have ended with a report are the ones recorded. -/
structure Sound (identifiers : Nat → String) (polls : Option Nat) (c : Crowd ι) : Prop where
  pendingPolls : c.service.pendingPolls = polls
  stands : ∀ i, (c.member i).Stands c.service
  issued : ∀ i task, (c.member i).stage.task? = some task →
    Handed identifiers 0 c.service.issued task
  apart : ∀ i j task, (c.member i).stage.task? = some task → (c.member j).stage.task? = some task →
    i = j
  owned : ∀ task, (c.service.tasks.lookup task).isSome = true →
    ∃ i, (c.member i).stage.task? = some task
  made : ∀ i report, (c.member i).made = some report →
    MadeFor identifiers 0 c.service.issued (c.member i).request report
  madeApart : ∀ i j report, (c.member i).made = some report → (c.member j).made = some report → i = j
  recorded : c.service.history.map some = c.finished.map fun i => (c.member i).stage.report?
  once : c.finished.Nodup
  all : ∀ i, (c.member i).stage.report?.isSome = true → i ∈ c.finished

variable {identifiers : Nat → String} {polls : Option Nat} {c d : Crowd ι} {i : ι}

/-- A task that is out for the submission or has just been handed out. -/
def Concerns (identifiers : Nat → String) (c : Crowd ι) (i : ι) (s : Simulation) (task : String) : Prop :=
  (c.member i).stage.task? = some task ∨ Handed identifiers c.service.issued s.issued task

/-- A change of one submission and the service that is of no concern to the others. -/
structure Change (identifiers : Nat → String) (c : Crowd ι) (i : ι) (m : Submission)
    (s : Simulation) : Prop where
  pendingPolls : s.pendingPolls = c.service.pendingPolls
  issued : c.service.issued ≤ s.issued
  request : m.request = (c.member i).request
  stands : m.Stands s
  others : ∀ task, ¬ Concerns identifiers c i s task →
    s.tasks.lookup task = c.service.tasks.lookup task
  task : ∀ task, m.stage.task? = some task → Concerns identifiers c i s task
  kept : ∀ task, Concerns identifiers c i s task → (s.tasks.lookup task).isSome = true →
    m.stage.task? = some task
  made : ∀ report, m.made = some report → (c.member i).made = some report ∨
    MadeFor identifiers c.service.issued s.issued m.request report
  history : (s.history = c.service.history ∧ m.stage.report? = (c.member i).stage.report?) ∨
    ∃ report, (c.member i).stage.report? = none ∧ m.stage.report? = some report ∧
      s.history = report :: c.service.history

variable {m : Submission} {s : Simulation}

section Apart

variable (hIdentifiers : Function.Injective identifiers)
include hIdentifiers

theorem Sound.not_concerns (h : c.Sound identifiers polls) {j : ι} (hOther : j ≠ i) {task : String}
    (hTask : (c.member j).stage.task? = some task) : ¬ Concerns identifiers c i s task := by
  rintro (hOwn | hNew)
  · exact hOther (h.apart j i task hTask hOwn)
  · exact (h.issued j task hTask).not_again hIdentifiers hNew

theorem Sound.not_made (h : c.Sound identifiers polls) (hChange : Change identifiers c i m s) {j : ι}
    (hOther : j ≠ i) {report : Report} (hMade : m.made = some report) :
    (c.member j).made ≠ some report := by
  intro hSecond
  rcases hChange.made report hMade with hOwn | hNew
  · exact hOther (h.madeApart j i report hSecond hOwn)
  · exact (h.made j report hSecond).not_again hIdentifiers hNew

end Apart

variable [DecidableEq ι]

section Put

theorem member_put_self : (c.put i m s).member i = m := if_pos rfl

theorem member_put_of_ne {j : ι} (h : j ≠ i) : (c.put i m s).member j = c.member j := if_neg h

theorem forall_put (p : ι → Submission → Prop) (hOwn : p i m)
    (hOthers : ∀ j, j ≠ i → p j (c.member j)) (j : ι) : p j ((c.put i m s).member j) := by
  by_cases hj : j = i
  · rw [hj, member_put_self]
    exact hOwn
  · rw [member_put_of_ne hj]
    exact hOthers j hj

/-- What no two submissions had in common they do not have in common now. -/
theorem apart_put {α : Type} (p : Submission → α → Prop)
    (hApart : ∀ j l x, p (c.member j) x → p (c.member l) x → j = l)
    (hOthers : ∀ j, j ≠ i → ∀ x, p m x → ¬ p (c.member j) x) (j l : ι) (x : α) :
    p ((c.put i m s).member j) x → p ((c.put i m s).member l) x → j = l := by
  refine forall_put (fun l other => p ((c.put i m s).member j) x → p other x → j = l) ?_ ?_ l
  · refine forall_put (fun j other => p other x → p m x → j = i) (fun _ _ => rfl) ?_ j
    exact fun j hj hFirst hSecond => absurd hFirst (hOthers j hj x hSecond)
  · intro l hl
    refine forall_put (fun j other => p other x → p (c.member l) x → j = l) ?_ ?_ j
    · exact fun hFirst hSecond => absurd hSecond (hOthers l hl x hFirst)
    · exact fun j _ => hApart j l x

theorem finished_put_of_same (h : m.stage.report? = (c.member i).stage.report?) :
    (c.put i m s).finished = c.finished := by
  refine if_neg fun ⟨hSome, hNone⟩ => ?_
  rw [h, hNone] at hSome
  cases hSome

theorem finished_put_of_new {report : Report} (hNone : (c.member i).stage.report? = none)
    (hSome : m.stage.report? = some report) : (c.put i m s).finished = i :: c.finished :=
  if_pos ⟨by rw [hSome]; rfl, hNone⟩

/-- The reports of those that have ended stay as they are. -/
theorem reports_put {list : List ι}
    (h : i ∈ list → m.stage.report? = (c.member i).stage.report?) :
    (list.map fun j => ((c.put i m s).member j).stage.report?) =
      list.map fun j => (c.member j).stage.report? := by
  refine List.map_congr_left fun j hj => ?_
  refine forall_put (fun j other => j ∈ list → other.stage.report? = (c.member j).stage.report?) h ?_ j hj
  exact fun _ _ _ => rfl

end Put

theorem Sound.recorded_put (h : c.Sound identifiers polls) (hChange : Change identifiers c i m s) :
    s.history.map some =
        ((c.put i m s).finished.map fun j => ((c.put i m s).member j).stage.report?) ∧
      (c.put i m s).finished.Nodup ∧
      ∀ j, ((c.put i m s).member j).stage.report?.isSome = true → j ∈ (c.put i m s).finished := by
  rcases hChange.history with ⟨hHistory, hSame⟩ | ⟨report, hNone, hNew, hHistory⟩
  · rw [finished_put_of_same hSame, hHistory, reports_put fun _ => hSame]
    refine ⟨h.recorded, h.once, fun j => ?_⟩
    refine forall_put (fun j other => other.stage.report?.isSome = true → j ∈ c.finished) ?_ ?_ j
    · rw [hSame]
      exact h.all i
    · exact fun j _ => h.all j
  · have hAbsent : i ∉ c.finished := by
      intro hMem
      have hReport := List.mem_map_of_mem (f := fun j => (c.member j).stage.report?) hMem
      rw [← h.recorded, hNone] at hReport
      simp at hReport
    rw [finished_put_of_new hNone hNew, hHistory, List.map_cons, List.map_cons, member_put_self, hNew,
      reports_put fun hMem => absurd hMem hAbsent, h.recorded]
    refine ⟨rfl, List.nodup_cons.mpr ⟨hAbsent, h.once⟩, fun j => ?_⟩
    refine forall_put (fun j other => other.stage.report?.isSome = true → j ∈ i :: c.finished) ?_ ?_ j
    · exact fun _ => List.mem_cons_self
    · exact fun j _ hSome => List.mem_cons_of_mem _ (h.all j hSome)

theorem Sound.put (hIdentifiers : Function.Injective identifiers) (h : c.Sound identifiers polls)
    (hChange : Change identifiers c i m s) : (c.put i m s).Sound identifiers polls where
  pendingPolls := hChange.pendingPolls.trans h.pendingPolls
  stands := by
    refine forall_put (fun _ other => other.Stands s) hChange.stands fun j hj => ?_
    exact (h.stands j).of_lookup hChange.pendingPolls fun task hTask =>
      hChange.others task (h.not_concerns hIdentifiers hj hTask)
  issued := by
    refine forall_put (fun _ other => ∀ task, other.stage.task? = some task →
      Handed identifiers 0 s.issued task) (fun task hTask => ?_)
      fun j _ task hTask => (h.issued j task hTask).mono (Nat.le_refl 0) hChange.issued
    rcases hChange.task task hTask with hOwn | hNew
    · exact (h.issued i task hOwn).mono (Nat.le_refl 0) hChange.issued
    · exact hNew.mono (Nat.zero_le _) (Nat.le_refl _)
  apart := by
    refine apart_put (fun other task => other.stage.task? = some task) h.apart fun j hj task hTask => ?_
    exact fun hOther => h.not_concerns hIdentifiers hj hOther (hChange.task task hTask)
  owned := by
    intro task hSome
    by_cases hConcerns : Concerns identifiers c i s task
    · exact ⟨i, by rw [member_put_self]; exact hChange.kept task hConcerns hSome⟩
    · change (s.tasks.lookup task).isSome = true at hSome
      rw [hChange.others task hConcerns] at hSome
      obtain ⟨j, hj⟩ := h.owned task hSome
      have hOther : j ≠ i := fun hSame => hConcerns (.inl (hSame ▸ hj))
      exact ⟨j, by rw [member_put_of_ne hOther]; exact hj⟩
  made := by
    refine forall_put (fun _ other => ∀ report, other.made = some report →
      MadeFor identifiers 0 s.issued other.request report) (fun report hMade => ?_)
      fun j _ report hMade => (h.made j report hMade).mono (Nat.le_refl 0) hChange.issued
    rcases hChange.made report hMade with hOwn | hNew
    · rw [hChange.request]
      exact (h.made i report hOwn).mono (Nat.le_refl 0) hChange.issued
    · exact hNew.mono (Nat.zero_le _) (Nat.le_refl _)
  madeApart := by
    refine apart_put (fun other report => other.made = some report) h.madeApart ?_
    exact fun j hj report hMade => h.not_made hIdentifiers hChange hj hMade
  recorded := (h.recorded_put hChange).1
  once := (h.recorded_put hChange).2.1
  all := (h.recorded_put hChange).2.2

end Crowd

end AuditDesk.Service
