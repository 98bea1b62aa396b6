import AuditDesk.Proofs.Service.Tasks
import Mathlib.Data.List.Induction

/-! The life of a simulated task, seen from outside. Whatever else is called in between, what is answered
about a task depends only on the calls about it since it was handed out, and the history gains a report
when it is handed out and not otherwise. -/
namespace AuditDesk.Service.Simulation

/-- Calls in their order, each with the time at which it is answered. -/
abbrev Talk := List (Timestamp × Call)

section Outside

/-- How often a task was asked for. -/
def asked (task : String) (talk : Talk) : Nat := talk.countP fun turn => turn.2 = .status task

def released (task : String) (talk : Talk) : Bool := talk.any fun turn => turn.2 = .release task

/-- What the next question for a task finds. -/
inductive Progress where
  | pending
  | finishing
  | gone
deriving DecidableEq

/-- How far a task has come after these calls, if it has to be asked for so often before it is finished. -/
def progress (polls : Nat) (task : String) (since : Talk) : Progress :=
  if released task since ∨ polls < asked task since then .gone
  else if asked task since < polls then .pending
  else .finishing

namespace Progress

variable (task : String) (made : Report)

/-- What a question for the task is answered. -/
def answer : Progress → Except NetworkError TaskStatus
  | .pending => .ok ⟨"PENDING", none⟩
  | .finishing => .ok ⟨"SUCCESS", some (Wire.ofReport made).settle⟩
  | .gone => .error (unknownTask task)

/-- What the history gains by a question for the task. -/
def gained : Progress → List Report
  | .finishing => [made]
  | .pending | .gone => []

end Progress

/-- What is left of a task with this report after these calls. -/
def left (polls : Nat) (task : String) (made : Report) (since : Talk) : Option SimulatedTask :=
  if released task since ∨ polls < asked task since then none
  else some ⟨polls - asked task since, made⟩

/-- One of the questions found the task finished. -/
def Finished (polls : Nat) (task : String) (since : Talk) : Prop :=
  ∃ early turn late, since = early ++ turn :: late ∧ turn.2 = .status task ∧
    progress polls task early = .finishing

variable {polls : Nat} {task : String} {made : Report} {since : Talk} {turn : Timestamp × Call}

theorem asked_concat :
    asked task (since ++ [turn]) = asked task since + if turn.2 = .status task then 1 else 0 := by
  simp [asked, List.countP_append, List.countP_singleton]

theorem released_concat :
    released task (since ++ [turn]) = (released task since || decide (turn.2 = .release task)) := by
  simp [released]

theorem mem_gained {progress : Progress} : made ∈ progress.gained made ↔ progress = .finishing := by
  cases progress <;> simp [Progress.gained]

theorem countedDown_left (asked : Nat) : SimulatedTask.countedDown ⟨polls - asked, made⟩ =
    if polls < asked + 1 then none else some ⟨polls - (asked + 1), made⟩ := by
  cases hLeft : polls - asked with
  | zero =>
      rw [if_pos (by omega)]
      rfl
  | succ left =>
      have hLater : left = polls - (asked + 1) := by omega
      rw [if_neg (by omega), ← hLater]
      rfl

theorem left_concat : left polls task made (since ++ [turn]) =
    if turn.2 = .status task then (left polls task made since).bind SimulatedTask.countedDown
    else if turn.2 = .release task then none
    else left polls task made since := by
  unfold left
  rw [asked_concat, released_concat]
  by_cases hStatus : turn.2 = .status task
  · have hRelease : turn.2 ≠ .release task := by
      rw [hStatus]
      exact nofun
    rw [if_pos hStatus, if_pos hStatus, decide_eq_false hRelease, Bool.or_false]
    by_cases hGone : released task since ∨ polls < asked task since
    · rw [if_pos hGone, if_pos (hGone.imp_right Nat.lt_succ_of_lt), Option.bind_none]
    · obtain ⟨hKept, _⟩ := not_or.mp hGone
      rw [if_neg hGone, Option.bind_some, countedDown_left]
      simp [hKept]
  · rw [if_neg hStatus, if_neg hStatus, Nat.add_zero]
    by_cases hRelease : turn.2 = .release task <;> simp [hRelease]

/-- The next question finds what is left. -/
theorem status_of_left {s : Simulation} (h : s.tasks.lookup task = left polls task made since) :
    (s.status task).1 = (progress polls task since).answer task made ∧
      (s.status task).2.history = (progress polls task since).gained made ++ s.history := by
  unfold left at h
  unfold progress
  by_cases hGone : released task since ∨ polls < asked task since
  · rw [if_pos hGone] at h ⊢
    rw [status_of_none h]
    exact ⟨rfl, rfl⟩
  · rw [if_neg hGone] at h ⊢
    by_cases hPending : asked task since < polls
    · obtain ⟨left, hLeft⟩ := Nat.exists_eq_succ_of_ne_zero (Nat.sub_ne_zero_of_lt hPending)
      rw [hLeft] at h
      rw [if_pos hPending]
      exact status_of_pending h
    · have hOver : polls - asked task since = 0 := by omega
      rw [hOver] at h
      rw [if_neg hPending]
      exact status_of_finished h

theorem not_finished_nil : ¬ Finished polls task [] := by
  rintro ⟨early, turn, late, hSince, _⟩
  simp at hSince

theorem finished_concat : Finished polls task (since ++ [turn]) ↔
    Finished polls task since ∨ turn.2 = .status task ∧ progress polls task since = .finishing := by
  constructor
  · rintro ⟨early, question, late, hSince, hQuestion, hFinishing⟩
    rcases List.eq_nil_or_concat late with rfl | ⟨late, last, rfl⟩
    · obtain ⟨rfl, hTurn⟩ := List.append_inj' hSince rfl
      cases hTurn
      exact .inr ⟨hQuestion, hFinishing⟩
    · rw [List.concat_eq_append, ← List.cons_append, ← List.append_assoc] at hSince
      exact .inl ⟨early, question, late, (List.append_inj' hSince rfl).1, hQuestion, hFinishing⟩
  · rintro (⟨early, question, late, rfl, hQuestion, hFinishing⟩ | ⟨hQuestion, hFinishing⟩)
    · exact ⟨early, question, late ++ [turn], by simp, hQuestion, hFinishing⟩
    · exact ⟨since, turn, [], rfl, hQuestion, hFinishing⟩

end Outside

variable (identifiers : Nat → String)

/-- The service after these calls. -/
def after (s : Simulation) (talk : Talk) : Simulation :=
  talk.foldl (fun s turn => (s.reply identifiers turn.1 turn.2).2) s

/-- One of the calls is a submission that is answered with the task, to be reported like this; the calls
behind it are the last ones. -/
inductive Began (s : Simulation) (task : String) : Talk → Report → Talk → Prop where
  | intro (before since : Talk) {now : Timestamp} {request : Request}
      (h : ((s.after identifiers before).reply identifiers now (.analyze request)).1 =
        .analyzed (.ok (.task task))) :
      Began s task (before ++ (now, .analyze request) :: since)
        (report (identifiers (s.after identifiers before).issued) now request) since

variable {identifiers} {s : Simulation} {now : Timestamp} {call : Call} {task : String}

@[simp]
theorem after_nil : s.after identifiers [] = s := rfl

theorem after_append (first second : Talk) :
    s.after identifiers (first ++ second) = (s.after identifiers first).after identifiers second :=
  List.foldl_append

theorem after_concat (talk : Talk) (turn : Timestamp × Call) :
    s.after identifiers (talk ++ [turn]) =
      ((s.after identifiers talk).reply identifiers turn.1 turn.2).2 := after_append talk [turn]

theorem Began.concat {talk since : Talk} {made : Report} (h : Began identifiers s task talk made since)
    (turn : Timestamp × Call) : Began identifiers s task (talk ++ [turn]) made (since ++ [turn]) := by
  cases h with
  | intro before since h =>
      rw [List.append_assoc, List.cons_append]
      exact .intro before _ h

section Step

theorem pendingPolls_reply : (s.reply identifiers now call).2.pendingPolls = s.pendingPolls := by
  cases call with
  | analyze request =>
      cases hPolls : s.pendingPolls <;> simp [reply, analyze, hPolls]
  | status task => exact pendingPolls_status s task
  | history | render _ _ | release _ => rfl

theorem issued_le_reply : s.issued ≤ (s.reply identifiers now call).2.issued := by
  cases call with
  | analyze request => cases hPolls : s.pendingPolls <;> simp [reply, analyze, hPolls]
  | status task => exact Nat.le_of_eq (issued_status s task).symm
  | history | render _ _ | release _ => exact Nat.le_refl _

section Submissions

variable (identifiers now)

/-- A task is handed out under the second of two new identifiers, and its report bears the first. -/
theorem reply_analyze_some {polls : Nat} (hPolls : s.pendingPolls = some polls) (request : Request) :
    (s.reply identifiers now (.analyze request)).1 = .analyzed (.ok (.task (identifiers (s.issued + 1)))) ∧
      (s.reply identifiers now (.analyze request)).2.history = s.history ∧
      (s.reply identifiers now (.analyze request)).2.issued = s.issued + 2 := by
  simp [reply, analyze, hPolls]

theorem reply_analyze_none (hPolls : s.pendingPolls = none) (request : Request) :
    (s.reply identifiers now (.analyze request)).1 =
        .analyzed (.ok (.completed (report (identifiers s.issued) now request))) ∧
      (s.reply identifiers now (.analyze request)).2.history =
        report (identifiers s.issued) now request :: s.history := by
  simp [reply, analyze, hPolls]

end Submissions

theorem reply_status : (s.reply identifiers now (.status task)).1 = .status (s.status task).1 ∧
    (s.reply identifiers now (.status task)).2 = (s.status task).2 := ⟨rfl, rfl⟩

/-- A call that does not hand out a task changes it if it asks for it or releases it, and only then. -/
theorem lookup_reply
    (hOther : (s.reply identifiers now call).1 ≠ .analyzed (.ok (.task task))) :
    (s.reply identifiers now call).2.tasks.lookup task =
      if call = .status task then (s.tasks.lookup task).bind SimulatedTask.countedDown
      else if call = .release task then none
      else s.tasks.lookup task := by
  cases call with
  | analyze request =>
      rw [if_neg Call.noConfusion, if_neg Call.noConfusion]
      cases hPolls : s.pendingPolls with
      | none => simp [reply, analyze, hPolls]
      | some polls =>
          rw [(reply_analyze_some identifiers now hPolls request).1] at hOther
          refine (lookup_analyze identifiers hPolls now request task).trans (if_neg ?_)
          rintro rfl
          exact hOther rfl
  | status other =>
      rw [reply_status.2, lookup_status]
      by_cases hSame : task = other
      · rw [if_pos hSame, if_pos (congrArg Call.status hSame.symm), hSame]
      · rw [if_neg hSame, if_neg (fun h => hSame (Call.status.inj h).symm), if_neg Call.noConfusion]
  | release other =>
      refine (lookup_forget s other task).trans ?_
      by_cases hSame : task = other
      · rw [if_pos hSame, if_neg Call.noConfusion, if_pos (congrArg Call.release hSame.symm)]
      · rw [if_neg hSame, if_neg Call.noConfusion, if_neg fun h => hSame (Call.release.inj h).symm]
  | history | render _ _ => rw [if_neg Call.noConfusion, if_neg Call.noConfusion]; rfl

end Step

section Numbers

variable (identifiers) in
/-- The tasks that are kept and the reports of the history bear identifiers that have been handed out, a
task the one behind that of its report. -/
structure Numbered (s : Simulation) : Prop where
  tasks : ∀ task kept, s.tasks.lookup task = some kept →
    ∃ n, n + 1 < s.issued ∧ task = identifiers (n + 1) ∧ kept.report.id = some (.text (identifiers n))
  history : ∀ r ∈ s.history, ∃ n < s.issued, r.id = some (.text (identifiers n))

theorem numbered_start {delay : Nat} {polls : Option Nat} : (start delay polls).Numbered identifiers where
  tasks := nofun
  history := nofun

theorem Numbered.analyze (h : s.Numbered identifiers) (request : Request) :
    (s.analyze identifiers now request).2.Numbered identifiers := by
  cases hPolls : s.pendingPolls with
  | none =>
      simp only [Simulation.analyze, hPolls]
      refine ⟨fun task kept hKept => ?_, fun r hMem => ?_⟩
      · obtain ⟨n, hIssued, hNamed⟩ := h.tasks task kept hKept
        exact ⟨n, Nat.lt_succ_of_lt hIssued, hNamed⟩
      · rcases List.mem_cons.mp hMem with rfl | hMem
        · exact ⟨s.issued, Nat.lt_succ_self _, rfl⟩
        · obtain ⟨n, hIssued, hNamed⟩ := h.history r hMem
          exact ⟨n, Nat.lt_succ_of_lt hIssued, hNamed⟩
  | some polls =>
      have hLookup := lookup_analyze identifiers hPolls now request
      simp only [Simulation.analyze, hPolls] at hLookup ⊢
      refine ⟨fun task kept hKept => ?_, fun r hMem => ?_⟩
      · rw [hLookup] at hKept
        split at hKept
        · cases hKept
          exact ⟨s.issued, Nat.lt_succ_self _, ‹_›, rfl⟩
        · obtain ⟨n, hIssued, hNamed⟩ := h.tasks task kept hKept
          exact ⟨n, Nat.lt_add_right 2 hIssued, hNamed⟩
      · obtain ⟨n, hIssued, hNamed⟩ := h.history r hMem
        exact ⟨n, Nat.lt_add_right 2 hIssued, hNamed⟩

/-- Nothing is renamed when a table shrinks and tasks are counted down. -/
theorem Numbered.of_lookup {after : Simulation} (h : s.Numbered identifiers) (hIssued : after.issued = s.issued)
    (hTasks : ∀ task kept, after.tasks.lookup task = some kept →
      ∃ before, s.tasks.lookup task = some before ∧ before.report = kept.report)
    (hHistory : ∀ r ∈ after.history,
      r ∈ s.history ∨ ∃ task kept, s.tasks.lookup task = some kept ∧ kept.report = r) :
    after.Numbered identifiers where
  tasks := fun task kept hKept => by
    obtain ⟨before, hBefore, hReport⟩ := hTasks task kept hKept
    obtain ⟨n, hNumber, hTask, hNamed⟩ := h.tasks task before hBefore
    exact ⟨n, hIssued ▸ hNumber, hTask, hReport ▸ hNamed⟩
  history := fun r hMem => by
    rcases hHistory r hMem with hMem | ⟨task, kept, hKept, rfl⟩
    · exact hIssued ▸ h.history r hMem
    · obtain ⟨n, hNumber, _, hNamed⟩ := h.tasks task kept hKept
      exact ⟨n, by omega, hNamed⟩

theorem Numbered.status (h : s.Numbered identifiers) (task : String) :
    (s.status task).2.Numbered identifiers := by
  refine h.of_lookup (issued_status s task) (fun other kept hKept => ?_) fun r hMem => ?_
  · rw [lookup_status] at hKept
    split at hKept
    · rename_i hSame
      obtain ⟨before, hBefore, hLeft⟩ := Option.bind_eq_some_iff.mp hKept
      refine ⟨before, hSame ▸ hBefore, ?_⟩
      unfold SimulatedTask.countedDown at hLeft
      split at hLeft <;> cases hLeft
      rfl
    · exact ⟨kept, hKept, rfl⟩
  · obtain ⟨_, hStatus⟩ | ⟨made, hLookup, hStatus⟩ | ⟨_, _, _, hStatus⟩ := status_cases s task <;>
      rw [hStatus] at hMem
    · exact .inl hMem
    · rcases List.mem_cons.mp hMem with rfl | hMem
      · exact .inr ⟨task, _, hLookup, rfl⟩
      · exact .inl hMem
    · exact .inl hMem

theorem Numbered.forget (h : s.Numbered identifiers) (task : String) : (s.forget task).Numbered identifiers := by
  refine h.of_lookup rfl (fun other kept hKept => ?_) fun r hMem => .inl hMem
  rw [lookup_forget] at hKept
  split at hKept
  · cases hKept
  · exact ⟨kept, hKept, rfl⟩

theorem Numbered.reply (h : s.Numbered identifiers) : (s.reply identifiers now call).2.Numbered identifiers := by
  cases call with
  | analyze request => exact h.analyze request
  | status task => exact h.status task
  | release task => exact h.forget task
  | history | render _ _ => exact h

theorem Numbered.after (h : s.Numbered identifiers) (talk : Talk) :
    (s.after identifiers talk).Numbered identifiers :=
  List.foldlRecOn talk _ h fun _ hBefore _ _ => hBefore.reply

end Numbers

section Run

variable (identifiers) in
theorem pendingPolls_after (talk : Talk) : (s.after identifiers talk).pendingPolls = s.pendingPolls :=
  List.foldlRecOn (motive := fun t : Simulation => t.pendingPolls = s.pendingPolls) talk _ rfl
    fun _ hBefore _ _ => pendingPolls_reply.trans hBefore

theorem issued_le_after (talk : Talk) : s.issued ≤ (s.after identifiers talk).issued :=
  List.foldlRecOn (motive := fun t : Simulation => s.issued ≤ t.issued) talk _ (Nat.le_refl _)
    fun _ hBefore _ _ => Nat.le_trans hBefore issued_le_reply

/-- Nothing is known of a task that was never handed out. -/
theorem lookup_of_never {talk : Talk} (hStart : s.tasks.lookup task = none)
    (hNever : ∀ made since, ¬ Began identifiers s task talk made since) :
    (s.after identifiers talk).tasks.lookup task = none := by
  induction talk using List.reverseRecOn with
  | nil => exact hStart
  | append_singleton talk turn ih =>
      obtain ⟨now, call⟩ := turn
      have hBefore := ih fun made since hBegan => hNever made _ (hBegan.concat (now, call))
      have hOther : ((s.after identifiers talk).reply identifiers now call).1 ≠
          .analyzed (.ok (.task task)) := by
        intro hAnswer
        cases call with
        | analyze request => exact hNever _ [] (.intro _ _ hAnswer)
        | status _ | history | render _ _ | release _ => cases hAnswer
      rw [after_concat, lookup_reply hOther, hBefore]
      split
      · rfl
      · split <;> rfl

variable (hIdentifiers : Function.Injective identifiers) {polls : Nat} (hPolls : s.pendingPolls = some polls)
  {talk since : Talk} {made : Report}
include hIdentifiers hPolls

/-- A task that was handed out is not handed out again. -/
theorem reply_ne_of_issued {n : Nat} (hTask : task = identifiers n) (hIssued : n < s.issued) (now : Timestamp)
    (call : Call) :
    (s.reply identifiers now call).1 ≠ .analyzed (.ok (.task task)) := by
  intro hAnswer
  cases call with
  | analyze request =>
      rw [(reply_analyze_some identifiers now hPolls request).1] at hAnswer
      injection hAnswer with hAnswer
      injection hAnswer with hAnswer
      injection hAnswer with hAnswer
      have hSame := hIdentifiers (hAnswer.trans hTask)
      omega
  | status _ | history | render _ _ | release _ => cases hAnswer

omit hIdentifiers in
/-- A task and its report bear the identifiers next to one another that were handed out with the task. -/
theorem Began.named (h : Began identifiers s task talk made since) :
    ∃ n, n + 1 < (s.after identifiers talk).issued ∧ task = identifiers (n + 1) ∧
      made.id = some (.text (identifiers n)) := by
  cases h with
  | @intro before since now request hAnswer =>
      have hBefore : (s.after identifiers before).pendingPolls = some polls :=
        (pendingPolls_after identifiers before).trans hPolls
      obtain ⟨hTask, _, hIssued⟩ := reply_analyze_some identifiers now hBefore request
      rw [hTask] at hAnswer
      injection hAnswer with hAnswer
      injection hAnswer with hAnswer
      injection hAnswer with hAnswer
      refine ⟨_, ?_, hAnswer.symm, rfl⟩
      rw [after_append]
      refine Nat.lt_of_lt_of_le ?_ (issued_le_after since)
      exact hIssued ▸ Nat.lt_succ_self _

/-- Of a task that was handed out is left what the calls since have left of it. -/
theorem lookup_of_began (h : Began identifiers s task talk made since) :
    (s.after identifiers talk).tasks.lookup task = left polls task made since := by
  cases h with
  | @intro before since now request hAnswer =>
      have hBefore : (s.after identifiers before).pendingPolls = some polls :=
        (pendingPolls_after identifiers before).trans hPolls
      induction since using List.reverseRecOn with
      | nil =>
          rw [after_concat, reply, lookup_analyze identifiers hBefore]
          rw [(reply_analyze_some identifiers now hBefore request).1] at hAnswer
          cases hAnswer
          exact if_pos rfl
      | append_singleton since turn ih =>
          obtain ⟨n, hIssued, hTask, _⟩ := (Began.intro _ since hAnswer).named hPolls
          have hLater := (pendingPolls_after identifiers
            (before ++ (now, .analyze request) :: since)).trans hPolls
          have hOther := reply_ne_of_issued hIdentifiers hLater hTask hIssued turn.1 turn.2
          rw [← List.cons_append, ← List.append_assoc, after_concat, lookup_reply hOther, ih, left_concat]

/-- Nothing but a question for a task can bring its report into the history. -/
theorem mem_history_reply {n : Nat} (hNumbered : s.Numbered identifiers) (hTask : task = identifiers (n + 1))
    (hMade : made.id = some (.text (identifiers n))) (hOther : call ≠ .status task) :
    made ∈ (s.reply identifiers now call).2.history ↔ made ∈ s.history := by
  cases call with
  | analyze request => rw [(reply_analyze_some identifiers now hPolls request).2.1]
  | status other =>
      rw [reply_status.2]
      obtain ⟨_, hStatus⟩ | ⟨finished, hLookup, hStatus⟩ | ⟨_, _, _, hStatus⟩ := status_cases s other <;>
        rw [hStatus]
      obtain ⟨m, _, hName, hReport⟩ := hNumbered.tasks other _ hLookup
      have hDifferent : made ≠ finished := by
        rintro rfl
        rw [hMade, Option.some.injEq, ReportId.text.injEq] at hReport
        have hSame : n = m := hIdentifiers hReport
        exact hOther (by rw [hTask, hName, hSame])
      simp [hDifferent]
  | history | render _ _ | release _ => rfl

/-- The report of a task is in the history when a question has found the task finished. -/
theorem mem_history_of_began (hNumbered : s.Numbered identifiers)
    (h : Began identifiers s task talk made since) :
    made ∈ (s.after identifiers talk).history ↔ Finished polls task since := by
  cases h with
  | @intro before since now request hAnswer =>
      have hBefore : (s.after identifiers before).pendingPolls = some polls :=
        (pendingPolls_after identifiers before).trans hPolls
      induction since using List.reverseRecOn with
      | nil =>
          rw [after_concat, (reply_analyze_some identifiers now hBefore request).2.1]
          refine ⟨fun hMem => ?_, fun hFinished => absurd hFinished not_finished_nil⟩
          obtain ⟨n, hIssued, hName⟩ := (hNumbered.after before).history _ hMem
          have hSame : (s.after identifiers before).issued = n :=
            hIdentifiers (ReportId.text.inj (Option.some.inj hName))
          omega
      | append_singleton since turn ih =>
          have hBegan := Began.intro _ since hAnswer
          obtain ⟨n, _, hTask, hMade⟩ := hBegan.named hPolls
          have hLater := (pendingPolls_after identifiers
            (before ++ (now, .analyze request) :: since)).trans hPolls
          rw [← List.cons_append, ← List.append_assoc, after_concat, finished_concat]
          refine Iff.trans ?_ (or_congr ih Iff.rfl)
          by_cases hStatus : turn.2 = .status task
          · have hLeft := lookup_of_began hIdentifiers hPolls hBegan
            rw [hStatus, reply_status.2, (status_of_left hLeft).2, List.mem_append, mem_gained, or_comm]
            simp
          · rw [mem_history_reply hIdentifiers hLater (hNumbered.after _) hTask hMade hStatus]
            simp [hStatus]

end Run

section Deliveries

/-- The reply hands out the report, itself or as the payload of a finished task. -/
def Delivers (made : Report) : Reply → Prop
  | .analyzed answer => answer = .ok (.completed made)
  | .status answer => answer = .ok ⟨"SUCCESS", some (Wire.ofReport made).settle⟩
  | .history _ | .rendered _ | .released => False

/-- The history gains the report that the reply hands out at its front, and nothing without one. -/
def Gains (reply : Reply) (before after : List Report) : Prop :=
  (∃ made, Delivers made reply ∧ after = made :: before) ∨
    (∀ made, ¬ Delivers made reply) ∧ after = before

theorem gains_reply :
    Gains (s.reply identifiers now call).1 s.history (s.reply identifiers now call).2.history := by
  cases call with
  | analyze request =>
      cases hPolls : s.pendingPolls with
      | none =>
          obtain ⟨hAnswer, hHistory⟩ :=
            reply_analyze_none identifiers now hPolls request
          rw [hAnswer, hHistory]
          exact .inl ⟨_, rfl, rfl⟩
      | some polls =>
          obtain ⟨hAnswer, hHistory, _⟩ :=
            reply_analyze_some identifiers now hPolls request
          rw [hAnswer, hHistory]
          exact .inr ⟨nofun, rfl⟩
  | status task =>
      rw [reply_status.1, reply_status.2]
      obtain ⟨_, hStatus⟩ | ⟨made, _, hStatus⟩ | ⟨_, _, _, hStatus⟩ := status_cases s task <;> rw [hStatus]
      · exact .inr ⟨nofun, rfl⟩
      · exact .inl ⟨made, rfl, rfl⟩
      · refine .inr ⟨fun made hDelivers => ?_, rfl⟩
        injection hDelivers with hDelivers
        injection hDelivers with hState
        exact absurd hState (by decide)
  | history | render _ _ | release _ => exact .inr ⟨nofun, rfl⟩

theorem status_ne_disappeared : (s.status task).1 ≠ .error (disappearedTask task) := by
  obtain ⟨_, hStatus⟩ | ⟨_, _, hStatus⟩ | ⟨_, _, _, hStatus⟩ := status_cases s task <;> rw [hStatus]
  · intro hSame
    injection hSame with hSame
    cases hSame
  · exact nofun
  · exact nofun

end Deliveries

/-- What is handed out is new. -/
theorem not_began_of_handed (hIdentifiers : Function.Injective identifiers) {polls : Nat}
    (hPolls : s.pendingPolls = some polls) {talk : Talk}
    (hAnswer : ((s.after identifiers talk).reply identifiers now call).1 = .analyzed (.ok (.task task)))
    (made : Report) (since : Talk) : ¬ Began identifiers s task talk made since := by
  intro hBegan
  obtain ⟨n, hIssued, hTask, _⟩ := hBegan.named hPolls
  exact reply_ne_of_issued hIdentifiers ((pendingPolls_after _ talk).trans hPolls) hTask hIssued now call hAnswer

/-- After any calls, a submission is answered with a task that was never handed out before, or at once with its
report. A question for a task finds it pending as often as it has to be asked for, then finished once and then
never again, whatever else is called; nothing is known of a task that was released or never handed out.
The history gains, at its front, what is delivered: each report when its task is found finished. -/
theorem tasks_live_once (hIdentifiers : Function.Injective identifiers) (delay : Nat) (polls : Option Nat)
    (talk : Talk) (now : Timestamp) :
    let first := start delay polls
    let s := first.after identifiers talk
    let reply := fun call => (s.reply identifiers now call).1
    let next := fun call => (s.reply identifiers now call).2
    (∀ request,
      (polls = none →
        reply (.analyze request) = .analyzed (.ok (.completed (report (identifiers s.issued) now request)))) ∧
      (polls.isSome → ∃ task, reply (.analyze request) = .analyzed (.ok (.task task)) ∧
        ∀ made since, ¬ Began identifiers first task talk made since)) ∧
    (∀ task, (∀ made since, ¬ Began identifiers first task talk made since) →
      reply (.status task) = .status (.error (unknownTask task))) ∧
    (∀ n, polls = some n → ∀ task made since, Began identifiers first task talk made since →
      reply (.status task) = .status ((progress n task since).answer task made) ∧
      (next (.status task)).history = (progress n task since).gained made ++ s.history ∧
      (made ∈ s.history ↔ Finished n task since)) ∧
    (∀ call, Gains (reply call) s.history (next call).history) ∧
    (∀ task, reply (.status task) ≠ .status (.error (disappearedTask task))) ∧
    reply .history = .history (.ok s.history) := by
  intro first s reply next
  have hPolls : s.pendingPolls = polls := pendingPolls_after _ talk
  refine ⟨fun request => ⟨fun hNone => ?_, fun hSome => ?_⟩, fun task hNever => ?_,
    fun n hSome task made since hBegan => ?_, fun call => gains_reply, fun task hSame => ?_, rfl⟩
  · exact (reply_analyze_none identifiers now (hPolls.trans hNone) request).1
  · obtain ⟨n, hSome⟩ := Option.isSome_iff_exists.mp hSome
    have hHanded := (reply_analyze_some identifiers now (hPolls.trans hSome) request).1
    exact ⟨_, hHanded, not_began_of_handed hIdentifiers hSome hHanded⟩
  · exact congrArg Reply.status (congrArg Prod.fst (status_of_none (lookup_of_never rfl hNever)))
  · have hLeft := lookup_of_began hIdentifiers hSome hBegan
    exact ⟨congrArg Reply.status (status_of_left hLeft).1, (status_of_left hLeft).2,
      mem_history_of_began hIdentifiers hSome numbered_start hBegan⟩
  · exact status_ne_disappeared (Reply.status.inj hSame)

/-- Of two tasks that each have to be asked for once before they are finished, one has been asked for and the
other one was released. -/
def twoTasks : Talk :=
  [.analyze ⟨"contract A {}", .solidity⟩, .analyze ⟨"contract B {}", .vyper⟩, .status (identifier 1),
    .release (identifier 3)].map (Timestamp.ofDate (.newYear 2024), ·)

theorem tasks_live_once_released :
    let now := Timestamp.ofDate (.newYear 2024)
    let s := (start 0 (some 1)).after identifier twoTasks
    let made := report (identifier 0) now ⟨"contract A {}", .solidity⟩
    let dropped := report (identifier 2) now ⟨"contract B {}", .vyper⟩
    Function.Injective identifier ∧
      (s.reply identifier now (.status (identifier 1))).1 =
        .status (.ok ⟨"SUCCESS", some (Wire.ofReport made).settle⟩) ∧
      (s.reply identifier now (.status (identifier 3))).1 =
        .status (.error (unknownTask (identifier 3))) ∧ dropped ∉ s.history := by
  intro now s made dropped
  have hLives := (tasks_live_once identifier_injective 0 (some 1) twoTasks now).2.2.1 1 rfl
  have hFirst : Began identifier (start 0 (some 1)) (identifier 1) twoTasks made (twoTasks.drop 1) :=
    .intro [] _ rfl
  have hSecond : Began identifier (start 0 (some 1)) (identifier 3) twoTasks dropped (twoTasks.drop 2) :=
    .intro (twoTasks.take 1) _ rfl
  have hFinishing : progress 1 (identifier 1) (twoTasks.drop 1) = .finishing := by decide
  have hGone : progress 1 (identifier 3) (twoTasks.drop 2) = .gone := by decide
  obtain ⟨hAnswer, _⟩ := hLives _ _ _ hFirst
  obtain ⟨hRefused, _, hFinished⟩ := hLives _ _ _ hSecond
  rw [hFinishing] at hAnswer
  rw [hGone] at hRefused
  refine ⟨identifier_injective, hAnswer, hRefused, fun hMem => ?_⟩
  obtain ⟨early, turn, late, hSince, hTurn, _⟩ := hFinished.mp hMem
  have hAsked : turn ∈ (twoTasks.drop 2).filter fun turn => turn.2 = .status (identifier 3) := by
    rw [hSince]
    simp [hTurn]
  have hNever : (twoTasks.drop 2).filter (fun turn => turn.2 = .status (identifier 3)) = [] := by decide
  rw [hNever] at hAsked
  cases hAsked

end AuditDesk.Service.Simulation
