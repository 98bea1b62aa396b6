import AuditDesk.Proofs.Service.Watch
import AuditDesk.Proofs.Time.Written
import AuditDesk.Proofs.Wire.Reports
import AuditDesk.Service.Simulation

/-! What the simulated service does to its tasks. A call changes no task but the one it is about, and no
two identifiers are the same. The answer that reports a task as finished carries its report. -/
namespace AuditDesk.Service

/-- What is left of a task after it has been asked for once more. -/
def SimulatedTask.countedDown (task : SimulatedTask) : Option SimulatedTask :=
  match task.pendingPolls with
  | 0 => none
  | left + 1 => some ⟨left, task.report⟩

namespace Simulation

variable {s : Simulation} (identifiers : Nat → String)

section Identifiers

theorem identifier_eq (n : Nat) :
    identifier n = "00000000-0000-4000-8000-" ++ Timestamp.digits 12 n := String.append_assoc

theorem identifier_injective : Function.Injective identifier := by
  intro first second hSame
  rw [identifier_eq, identifier_eq, String.append_right_inj] at hSame
  exact Timestamp.digits_injective 12 hSame

/-- One of the identifiers with these numbers. -/
def Handed (first next : Nat) (id : String) : Prop := ∃ n, first ≤ n ∧ n < next ∧ id = identifiers n

/-- A report on the source of a request with one of these identifiers, made in a year of at most four
digits. -/
def MadeFor (first next : Nat) (request : Request) (made : Report) : Prop :=
  ∃ id now, Handed identifiers first next id ∧ (0 ≤ now.date.year ∧ now.date.year ≤ 9999) ∧
    made = report id now request

variable {identifiers} {earlier first next later : Nat}

theorem Handed.mono {id : String} (h : Handed identifiers first next id) (hEarlier : earlier ≤ first)
    (hLater : next ≤ later) : Handed identifiers earlier later id := by
  obtain ⟨n, hFirst, hNext, hName⟩ := h
  exact ⟨n, Nat.le_trans hEarlier hFirst, Nat.lt_of_lt_of_le hNext hLater, hName⟩

theorem not_handed_self {id : String} : ¬ Handed identifiers next next id := by
  rintro ⟨n, hFirst, hNext, _⟩
  omega

/-- What has been handed out is not handed out again. -/
theorem Handed.not_again (hIdentifiers : Function.Injective identifiers) {id : String}
    (h : Handed identifiers first next id) : ¬ Handed identifiers next later id := by
  rintro ⟨n, hAfter, _, hAgain⟩
  obtain ⟨m, _, hBefore, hName⟩ := h
  have hNumber : m = n := hIdentifiers (hName.symm.trans hAgain)
  omega

theorem MadeFor.mono {request : Request} {made : Report}
    (h : MadeFor identifiers first next request made) (hEarlier : earlier ≤ first)
    (hLater : next ≤ later) : MadeFor identifiers earlier later request made := by
  obtain ⟨id, now, hHanded, hMade⟩ := h
  exact ⟨id, now, hHanded.mono hEarlier hLater, hMade⟩

theorem MadeFor.not_again (hIdentifiers : Function.Injective identifiers) {request other : Request}
    {made : Report} (h : MadeFor identifiers first next request made) :
    ¬ MadeFor identifiers next later other made := by
  rintro ⟨id, now, hAgain, _, hMade⟩
  obtain ⟨before, _, hBefore, _, rfl⟩ := h
  have hId := congrArg Report.id hMade
  simp only [report, Option.some.injEq, ReportId.text.injEq] at hId
  exact hBefore.not_again hIdentifiers (hId ▸ hAgain)

theorem report_sendable (id : String) {now : Timestamp} (request : Request)
    (hYear : 0 ≤ now.date.year ∧ now.date.year ≤ 9999) : Wire.Sendable (report id now request) := by
  refine ⟨fun n hId => ?_, fun t hTime => ?_⟩
  · cases hId
  · cases hTime
    exact hYear

theorem MadeFor.sendable {request : Request} {made : Report}
    (h : MadeFor identifiers first next request made) : Wire.Sendable made := by
  obtain ⟨id, now, _, hYear, rfl⟩ := h
  exact report_sendable id request hYear

end Identifiers

section Table

theorem tasks_eq_nil_of_lookup (h : ∀ task, s.tasks.lookup task = none) : s.tasks = [] := by
  cases hTasks : s.tasks with
  | nil => rfl
  | cons entry rest =>
      have hNone := h entry.1
      rw [hTasks, List.lookup_cons_self] at hNone
      cases hNone

theorem lookup_analyze {polls : Nat} (hPolls : s.pendingPolls = some polls) (now : Timestamp)
    (request : Request) (other : String) :
    (s.analyze identifiers now request).2.tasks.lookup other =
      if other = identifiers (s.issued + 1) then
        some ⟨polls, report (identifiers s.issued) now request⟩
      else s.tasks.lookup other := by
  simp only [analyze, hPolls, List.lookup_cons]
  by_cases hOther : other = identifiers (s.issued + 1)
  · simp [hOther]
  · rw [if_neg hOther, beq_eq_false_iff_ne.mpr hOther]

theorem lookup_forget (s : Simulation) (task other : String) :
    (s.forget task).tasks.lookup other = if other = task then none else s.tasks.lookup other := by
  simp only [forget]
  induction s.tasks with
  | nil => simp
  | cons entry rest ih =>
      obtain ⟨key, value⟩ := entry
      by_cases hKey : key = task <;> by_cases hOther : other = key <;> grind

theorem lookup_replaced (tasks : List (String × SimulatedTask)) (task other : String)
    (left : SimulatedTask) :
    (tasks.map fun entry => if entry.1 = task then (entry.1, left) else entry).lookup other =
      if other = task then (tasks.lookup task).map fun _ => left else tasks.lookup other := by
  induction tasks with
  | nil => simp
  | cons entry rest ih =>
      obtain ⟨key, value⟩ := entry
      by_cases hKey : key = task <;> by_cases hOther : other = key <;> grind

/-- A task that is not pending any more is there when it is removed. -/
theorem status_of_zero {task : String} {made : Report} (h : s.tasks.lookup task = some ⟨0, made⟩) :
    s.status task = (.ok ⟨"SUCCESS", some (Wire.ofReport made).settle⟩,
      { s.forget task with history := made :: s.history }) := by
  unfold status remove
  rw [h]
  rfl

theorem status_of_more {task : String} {left : Nat} {made : Report}
    (h : s.tasks.lookup task = some ⟨left + 1, made⟩) :
    s.status task = (.ok ⟨"PENDING", none⟩,
      { s with tasks := s.tasks.map fun entry =>
          if entry.1 = task then (entry.1, ⟨left, made⟩) else entry }) := by
  unfold status
  rw [h]

theorem status_of_none {task : String} (h : s.tasks.lookup task = none) :
    s.status task = (.error (unknownTask task), s) := by
  unfold status
  rw [h]

/-- All that a question for a task can do. -/
theorem status_cases (s : Simulation) (task : String) :
    (s.tasks.lookup task = none ∧ s.status task = (.error (unknownTask task), s)) ∨
    (∃ made, s.tasks.lookup task = some ⟨0, made⟩ ∧
      s.status task = (.ok ⟨"SUCCESS", some (Wire.ofReport made).settle⟩,
        { s.forget task with history := made :: s.history })) ∨
    ∃ left made, s.tasks.lookup task = some ⟨left + 1, made⟩ ∧
      s.status task = (.ok ⟨"PENDING", none⟩,
        { s with tasks := s.tasks.map fun entry =>
            if entry.1 = task then (entry.1, ⟨left, made⟩) else entry }) :=
  match hLookup : s.tasks.lookup task with
  | none => .inl ⟨rfl, status_of_none hLookup⟩
  | some ⟨0, made⟩ => .inr (.inl ⟨made, rfl, status_of_zero hLookup⟩)
  | some ⟨left + 1, made⟩ => .inr (.inr ⟨left, made, rfl, status_of_more hLookup⟩)

/-- Asking for a task counts it down or takes it away. -/
theorem lookup_status (s : Simulation) (task other : String) :
    (s.status task).2.tasks.lookup other =
      if other = task then (s.tasks.lookup task).bind SimulatedTask.countedDown
      else s.tasks.lookup other := by
  obtain ⟨hLookup, hStatus⟩ | ⟨made, hLookup, hStatus⟩ | ⟨left, made, hLookup, hStatus⟩ :=
    status_cases s task <;> rw [hStatus, hLookup]
  · split
    · rename_i hOther
      rw [hOther, hLookup]
      rfl
    · rfl
  · exact lookup_forget s task other
  · exact (lookup_replaced s.tasks task other ⟨left, made⟩).trans (by rw [hLookup]; rfl)

end Table

section Answers

variable {task : String} {made : Report}

theorem status_of_pending {left : Nat} (h : s.tasks.lookup task = some ⟨left + 1, made⟩) :
    (s.status task).1 = .ok ⟨"PENDING", none⟩ ∧ (s.status task).2.history = s.history := by
  rw [status_of_more h]
  exact ⟨rfl, rfl⟩

theorem status_of_finished (h : s.tasks.lookup task = some ⟨0, made⟩) :
    (s.status task).1 = .ok ⟨"SUCCESS", some (Wire.ofReport made).settle⟩ ∧
      (s.status task).2.history = made :: s.history := by
  rw [status_of_zero h]
  exact ⟨rfl, rfl⟩

theorem pendingPolls_status (s : Simulation) (task : String) :
    (s.status task).2.pendingPolls = s.pendingPolls := by
  obtain ⟨_, hStatus⟩ | ⟨_, _, hStatus⟩ | ⟨_, _, _, hStatus⟩ := status_cases s task <;>
    exact congrArg (·.2.pendingPolls) hStatus

theorem issued_status (s : Simulation) (task : String) : (s.status task).2.issued = s.issued := by
  obtain ⟨_, hStatus⟩ | ⟨_, _, hStatus⟩ | ⟨_, _, _, hStatus⟩ := status_cases s task <;>
    exact congrArg (·.2.issued) hStatus

end Answers

end Simulation

namespace Stage

variable (policy : PollPolicy) (task : String) (attempt : Nat)

theorem reported_pending : reported policy task attempt (.ok ⟨"PENDING", none⟩) = next policy task attempt :=
  reported_of_pending policy task attempt ⟨_, rfl, by decide⟩

/-- The report is taken out of the answer as it was put in. -/
theorem reported_finished {made : Report} (h : Wire.Sendable made) :
    reported policy task attempt (.ok ⟨"SUCCESS", some (Wire.ofReport made).settle⟩) =
      .ended (.ok made) := by
  have hPhase : TaskPhase.ofState "SUCCESS" = .done := by decide
  simp only [reported, TaskStatus.phase, hPhase, finished, (Wire.report_ofValue h).2]
  rfl

end Stage

end AuditDesk.Service
