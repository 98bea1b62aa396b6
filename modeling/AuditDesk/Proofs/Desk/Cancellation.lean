import AuditDesk.Proofs.Desk.Accounting

/-! What becomes of an analysis that the user has cancelled when the service never answers again. The
worker notices the cancellation wherever it asks for the analysis itself, and brings it to an end; while
it fetches the history it notices nothing. -/
namespace AuditDesk

open Service

/-- Whether the event needs the service. A task is released without waiting for it. -/
def Service.Event.isAnswer : Event → Bool
  | .reply .released => false
  | .reply _ => true
  | _ => false

/-- Whether a worker makes the move, and without an answer of the service. -/
def Move.IsAlone (id : Nat) : Move → Prop
  | .commence worker => worker = id
  | .happen worker event => worker = id ∧ event.isAnswer = false
  | .send worker => worker = id
  | _ => False

/-- Whatever a worker does without an answer of the service, the end of an analysis gets queued, and until
then there is always something that it can do. -/
inductive Desk.Freed (id : Nat) : Desk → Prop
  | queued {d : Desk} (hQueued : ∃ command ∈ d.queue, command.endsAnalysis = true) : Freed id d
  | alone {d : Desk} (hSome : ∃ m, Move.IsAlone id m ∧ d.Allows m)
      (hAll : ∀ m, Move.IsAlone id m → d.Allows m → Freed id (d.move m)) : Freed id d

/-- More than the events and commands that are left of an errand, with room for the beginning of an
action before each event. -/
def Errand.weight (policy : PollPolicy) : Errand → Nat
  | .sending commands => commands.length
  | errand => 4 * errand.remaining policy

namespace Worker

/-- More than the moves that a worker can make until it has nothing left to queue. -/
def distance (policy : PollPolicy) (worker : Worker) : Nat :=
  worker.errand.weight policy + if worker.begun then 0 else 1

/-- The worker is cancelled and still has to queue the end of its analysis, but does not fetch the
history. -/
structure Stopping (worker : Worker) : Prop where
  analysis : worker.errand.isAnalysis = true
  cancelled : worker.cancelled = true
  tidy : worker.errand.Tidy
  notRecording : ∀ report, worker.errand ≠ .recording report

end Worker

namespace Errand

variable {policy : PollPolicy} {errand next : Errand} {event : Event}

theorem weight_ofStage_le (request : Request) (stage : Stage) :
    (ofStage request stage).weight policy ≤ 4 * (stage.remaining policy + 1) := by
  unfold ofStage
  split
  · exact Nat.le_refl 4
  · simp only [weight, failure, List.length_cons, List.length_nil]
    omega
  · exact Nat.le_refl _

theorem weight_step_lt (h : errand.step policy event = some next) :
    next.weight policy + 1 < errand.weight policy := by
  unfold step at h
  split at h
  · rename_i request stage
    obtain ⟨after, hAfter, rfl⟩ := Option.map_eq_some_iff.mp h
    have hNearer := Stage.remaining_step_lt policy hAfter
    have hWeight : (ofStage request after).weight policy ≤ 4 * (after.remaining policy + 1) :=
      weight_ofStage_le request after
    change (ofStage request after).weight policy + 1 < 4 * (stage.remaining policy + 1)
    omega
  · cases h
    exact Nat.lt_of_sub_eq_succ rfl
  · cases h
    exact Nat.lt_of_sub_eq_succ rfl
  · cases h

/-- A report comes with an answer of the service. -/
theorem isAnswer_of_report {stage : Stage} {report : Report}
    (h : stage.step policy event = some (.ended (.ok report))) : event.isAnswer = true := by
  unfold Stage.step at h
  split at h
  · rfl
  · cases h
  · cases h
  · cases h
  · rfl
  · cases h
  · cases h
  · cases h

/-- Without an answer of the service an analysis does not get to fetching the history. -/
theorem not_recording_step (h : errand.step policy event = some next)
    (hAlone : event.isAnswer = false) (report : Report) : next ≠ .recording report := by
  rintro rfl
  unfold step at h
  split at h
  · obtain ⟨after, hStep, hErrand⟩ := Option.map_eq_some_iff.mp h
    have hReport : after = .ended (.ok report) := by
      unfold ofStage at hErrand
      split at hErrand <;> cases hErrand
      rfl
    rw [hReport] at hStep
    rw [isAnswer_of_report hStep] at hAlone
    cases hAlone
  · cases h
  · cases h
  · cases h

theorem isAnswer_of_recording {report : Report}
    (h : (recording report).step policy event = some next) : event.isAnswer = true := by
  cases event with
  | reply reply =>
      cases reply with
      | released => cases h
      | _ => rfl
  | elapsed => cases h
  | cancelled => cases h

end Errand

namespace Worker

variable {policy : PollPolicy} {worker : Worker}

theorem distance_begun (hBegun : worker.begun = false) :
    distance policy { worker with begun := true } < worker.distance policy := by
  simp only [distance, hBegun, ↓reduceIte, Bool.false_eq_true]
  omega

theorem distance_tell {command : Command} {rest : List Command}
    (hErrand : worker.errand = .sending (command :: rest)) :
    distance policy { worker with errand := .sending rest } < worker.distance policy := by
  simp only [distance, hErrand, Errand.weight, List.length_cons]
  omega

theorem distance_step {event : Event} {next : Errand}
    (hStep : worker.errand.step policy event = some next) :
    distance policy { worker with errand := next, begun := false } < worker.distance policy := by
  have hWeight := Errand.weight_step_lt hStep
  simp only [distance, Bool.false_eq_true, ↓reduceIte]
  omega

namespace Stopping

theorem begun (h : worker.Stopping) : Stopping { worker with begun := true } :=
  ⟨h.analysis, h.cancelled, h.tidy, h.notRecording⟩

theorem step (h : worker.Stopping) {event : Event} {next : Errand}
    (hStep : worker.errand.step policy event = some next) (hAlone : event.isAnswer = false) :
    Stopping { worker with errand := next, begun := false } :=
  ⟨by rw [Errand.isAnalysis_step hStep, h.analysis], h.cancelled, Errand.tidy_step hStep,
    Errand.not_recording_step hStep hAlone⟩

theorem tell (h : worker.Stopping) {command : Command} {rest : List Command}
    (hErrand : worker.errand = .sending (command :: rest)) (hQuiet : command.endsAnalysis = false) :
    Stopping { worker with errand := .sending rest } := by
  have hAnalysis := h.analysis
  have hTidy := h.tidy
  rw [hErrand] at hAnalysis hTidy
  refine ⟨?_, h.cancelled, hTidy.tail.1, nofun⟩
  simpa [Errand.isAnalysis, hQuiet] using hAnalysis

end Stopping

end Worker

namespace Desk

section Alone

variable {d : Desk} {worker : Worker}

/-- A worker that stops can always do something more. -/
theorem exists_alone (hStaffed : d.work.Staffed) (hMem : worker ∈ d.workers)
    (hStopping : worker.Stopping) : ∃ m, Move.IsAlone worker.id m ∧ d.Allows m := by
  have hWorker : d.worker? worker.id = some worker := worker?_of_mem hStaffed hMem
  cases hErrand : worker.errand with
  | analysis request stage =>
      have hHeeds : (stage.step d.policy .cancelled).isSome = true →
          ∃ m, Move.IsAlone worker.id m ∧ d.Allows m := by
        intro hSome
        refine ⟨.happen worker.id .cancelled, ⟨rfl, rfl⟩, worker, hWorker, hStopping.cancelled, ?_⟩
        rw [hErrand, Errand.step, Option.isSome_map]
        exact hSome
      cases stage with
      | asking => exact hHeeds rfl
      | waiting task attempt => exact hHeeds rfl
      | polling task attempt => exact hHeeds rfl
      | releasing task e =>
          cases hBegun : worker.begun with
          | false => exact ⟨.commence worker.id, rfl, worker, hWorker, hBegun, by rw [hErrand]; rfl⟩
          | true =>
              exact ⟨.happen worker.id (.reply .released), ⟨rfl, rfl⟩, worker, hWorker, hBegun,
                by rw [hErrand]; rfl⟩
      | ended outcome => exact absurd hErrand (hStopping.tidy.unfinished request outcome)
  | recording report => exact absurd hErrand (hStopping.notRecording report)
  | listing =>
      have hAnalysis := hStopping.analysis
      rw [hErrand] at hAnalysis
      cases hAnalysis
  | sending commands => exact ⟨.send worker.id, rfl, worker, commands, hWorker, hErrand⟩

/-- What a move that a worker makes alone leaves of the work. -/
inductive AloneTurn (w : Work) (worker : Worker) : Work → Prop
  | begins (hBegun : worker.begun = false) : AloneTurn w worker (w.replace { worker with begun := true })
  | meets {event : Event} {next : Errand} (hAnswer : event.isAnswer = false)
      (hStep : worker.errand.step w.policy event = some next) :
      AloneTurn w worker (w.replace { worker with errand := next, begun := false })
  | tells {command : Command} {rest : List Command} (hErrand : worker.errand = .sending (command :: rest)) :
      AloneTurn w worker
        { w.replace { worker with errand := .sending rest } with queue := w.queue ++ [command] }
  | leaves (hErrand : worker.errand = .sending []) :
      AloneTurn w worker { w with workers := w.workers.filter fun other => other.id ≠ worker.id }

theorem alone_turn (hStaffed : d.work.Staffed) (hMem : worker ∈ d.workers) {m : Move}
    (hAlone : Move.IsAlone worker.id m) (hAllows : d.Allows m) :
    AloneTurn d.work worker (d.move m).work := by
  have hUsers : m.isUsers = false := by
    cases m <;> first | rfl | exact hAlone.elim
  have hSelf : ∀ other ∈ d.work.workers, other.id = worker.id → other = worker :=
    fun other hOther hId => hStaffed.eq_of_id hOther hMem hId
  have hTurn := turn_move hStaffed hAllows
  generalize (d.move m).work = after at hTurn ⊢
  cases hTurn with
  | keeps hUser => exact nomatch hUsers.symm.trans hUser
  | starts hUser => exact nomatch hUsers.symm.trans hUser
  | cancels hUser => exact nomatch hUsers.symm.trans hUser
  | drops hUser => exact nomatch hUsers.symm.trans hUser
  | fetches hUser => exact nomatch hUsers.symm.trans hUser
  | commences hOther hBegun hAction =>
      obtain rfl := hSelf _ hOther hAlone
      exact .begins hBegun
  | happens hOther hMeet hStep =>
      obtain rfl := hSelf _ hOther hAlone.1
      exact .meets hAlone.2 hStep
  | sends hOther hErrand =>
      obtain rfl := hSelf _ hOther hAlone
      exact .tells hErrand
  | leaves hOther hErrand =>
      obtain rfl := hSelf _ hOther hAlone
      exact .leaves hErrand
  | delivers => exact hAlone.elim

/-- What a worker that stops does brings its end nearer, or queues it. -/
theorem alone_cases (hStaffed : d.work.Staffed) (hMem : worker ∈ d.workers)
    (hStopping : worker.Stopping) {m : Move} (hAlone : Move.IsAlone worker.id m) (hAllows : d.Allows m) :
    (∃ command ∈ (d.move m).work.queue, command.endsAnalysis = true) ∨
      ∃ next ∈ (d.move m).work.workers, next.id = worker.id ∧ next.Stopping ∧
        next.distance d.policy < worker.distance d.policy ∧ (d.move m).work.policy = d.policy := by
  have hTurn := alone_turn hStaffed hMem hAlone hAllows
  generalize (d.move m).work = after at hTurn ⊢
  cases hTurn with
  | begins hBegun =>
      exact .inr ⟨_, mem_replace_self hMem rfl, rfl, hStopping.begun, Worker.distance_begun hBegun, rfl⟩
  | meets hAnswer hStep =>
      exact .inr ⟨_, mem_replace_self hMem rfl, rfl, hStopping.step hStep hAnswer,
        Worker.distance_step hStep, rfl⟩
  | @tells command rest hErrand =>
      cases hEnds : command.endsAnalysis with
      | true => exact .inl ⟨command, List.mem_append_right _ List.mem_cons_self, hEnds⟩
      | false =>
          exact .inr ⟨_, mem_replace_self hMem rfl, rfl, hStopping.tell hErrand hEnds,
            Worker.distance_tell hErrand, rfl⟩
  | leaves hErrand =>
      have hAnalysis := hStopping.analysis
      rw [hErrand] at hAnalysis
      cases hAnalysis

theorem freed_of_stopping (n : Nat) : ∀ {d : Desk} {worker : Worker}, d.work.Staffed →
    worker ∈ d.workers → worker.Stopping → worker.distance d.policy < n → d.Freed worker.id := by
  induction n with
  | zero => exact fun _ _ _ hDistance => absurd hDistance (Nat.not_lt_zero _)
  | succ n ih =>
      intro d worker hStaffed hMem hStopping hDistance
      refine .alone (exists_alone hStaffed hMem hStopping) fun m hAlone hAllows => ?_
      rcases alone_cases hStaffed hMem hStopping hAlone hAllows with
        hQueued | ⟨next, hNext, hId, hNextStopping, hNearer, hPolicy⟩
      · exact .queued hQueued
      · rw [← hId]
        refine ih (hStaffed.turn (turn_move hStaffed hAllows)) hNext hNextStopping ?_
        have hSame : (d.move m).policy = d.policy := hPolicy
        rw [hSame]
        omega

/-- A worker that fetches the history waits for the service, cancelled or not. -/
theorem not_freed_of_recording {id : Nat} (hFreed : d.Freed id) :
    d.work.Staffed → ∀ worker ∈ d.workers, worker.id = id → ∀ report,
      worker.errand = .recording report →
        ∃ command ∈ d.queue, command.endsAnalysis = true := by
  induction hFreed with
  | queued hQueued => exact fun _ _ _ _ _ _ => hQueued
  | @alone d hSome hAll ih =>
      rintro hStaffed worker hMem rfl report hErrand
      obtain ⟨m, hAlone, hAllows⟩ := hSome
      have hAfter := ih m hAlone hAllows (hStaffed.turn (turn_move hStaffed hAllows))
      have hTurn := alone_turn hStaffed hMem hAlone hAllows
      change ∀ worker ∈ (d.move m).work.workers, worker.id = _ → ∀ report,
        worker.errand = .recording report →
          ∃ command ∈ (d.move m).work.queue, command.endsAnalysis = true at hAfter
      generalize (d.move m).work = after at hTurn hAfter
      cases hTurn with
      | begins hBegun => exact hAfter _ (mem_replace_self hMem rfl) rfl report hErrand
      | @meets event _ hAnswer hStep =>
          rw [hErrand] at hStep
          rw [Errand.isAnswer_of_recording hStep] at hAnswer
          cases hAnswer
      | tells hSending => rw [hErrand] at hSending; cases hSending
      | leaves hSending => rw [hErrand] at hSending; cases hSending

end Alone

/-- Once a running analysis has been cancelled, its end is queued already, or its worker brings it to an
end without any answer of the service; except while the worker fetches the history, when nothing but the
service's answer can end it. -/
theorem freed_iff_not_recording {d : Desk} (h : d.Reachable) (hRunning : d.isRunning = true)
    (hFired : d.cancellable = none) :
    (∃ command ∈ d.queue, command.endsAnalysis = true) ∨
      ∃ worker ∈ d.workers, worker.errand.isAnalysis = true ∧ worker.cancelled = true ∧
        (d.Freed worker.id ↔ ∀ report, worker.errand ≠ .recording report) := by
  obtain ⟨l, hReachable, rfl⟩ := Ledger.exists_of_reachable h
  have hAccounts := hReachable.accounts
  obtain ⟨s, _, hFits⟩ := hAccounts.story
  obtain ⟨id, rfl⟩ : ∃ id, s = .running id true := by
    have hHandle : l.desk.cancellable = s.handle := hFits.handle
    rw [hFired] at hHandle
    cases s with
    | idle => exact absurd rfl (hFits.running.mp (of_decide_eq_true hRunning))
    | running id fired =>
        cases fired with
        | true => exact ⟨id, rfl⟩
        | false => cases hHandle
  by_cases hQueued : ∃ command ∈ l.desk.queue, command.endsAnalysis = true
  · exact .inl hQueued
  · right
    have hNothing : Work.announced l.posts = [] := by
      rw [Work.announced, List.map_eq_nil_iff, List.filter_eq_nil_iff]
      intro post hPost hEnds
      have hMem : post.2 ∈ l.desk.work.queue := by
        rw [← hAccounts.posted]
        exact List.mem_map_of_mem hPost
      exact hQueued ⟨post.2, hMem, hEnds⟩
    have hOnly : Work.analysts l.desk.workers = [id] := by
      have hOwing := hFits.owing
      rw [hNothing, List.append_nil] at hOwing
      exact hOwing
    obtain ⟨worker, hMem, hId⟩ := List.mem_map.mp (hOnly ▸ List.mem_singleton_self id :
      id ∈ Work.analysts l.desk.workers)
    obtain ⟨hMem, hAnalysis⟩ := List.mem_filter.mp hMem
    have hCancelled : worker.cancelled = true := hFits.flag worker hMem hAnalysis
    refine ⟨worker, hMem, hAnalysis, hCancelled, fun hFreed report hErrand => ?_, fun hOther => ?_⟩
    · exact hQueued (not_freed_of_recording hFreed hAccounts.staffed worker hMem rfl report hErrand)
    · exact freed_of_stopping _ hAccounts.staffed hMem
        ⟨hAnalysis, hCancelled, hAccounts.tidy worker hMem, hOther⟩ (Nat.lt_succ_self _)

/-- A desk where an analysis waits for the answer to its submission, and the user has cancelled it. -/
def unanswered : Desk := Ledger.opening.desk.move (.press (.ofCode .escape))

theorem reachable_unanswered : unanswered.Reachable :=
  .move Ledger.reachable_opening.desk trivial

/-- The cancelled submission comes to its end although the service does not answer. -/
theorem freed_unanswered :
    unanswered.isRunning = true ∧ unanswered.cancellable = none ∧ unanswered.Freed 0 := by
  refine ⟨rfl, rfl, ?_⟩
  rcases freed_iff_not_recording reachable_unanswered rfl rfl with ⟨command, hMem, _⟩ | hWorker
  · cases hMem
  · obtain ⟨worker, hMem, _, _, hFreed⟩ := hWorker
    obtain rfl := List.mem_singleton.mp hMem
    exact hFreed.mpr nofun

/-- A desk where the report has arrived and the history is being fetched. -/
def fetching : Desk :=
  (Ledger.opening.desk.move (.commence 0)).move
    (.happen 0 (.reply (.analyzed (.ok (.completed ⟨none, none, none, []⟩)))))

theorem reachable_fetching : fetching.Reachable := by
  have hCommence : Ledger.opening.desk.Allows (.commence 0) := ⟨_, rfl, rfl, rfl⟩
  exact .move (.move Ledger.reachable_opening.desk hCommence) ⟨_, rfl, rfl, rfl⟩

/-- Cancelling is accepted while the history is being fetched, but does not end the analysis. -/
theorem not_freed_fetching :
    fetching.cancelAnalysis.1 = true ∧ fetching.cancelAnalysis.2.Reachable ∧
      fetching.cancelAnalysis.2.isRunning = true ∧ ¬ fetching.cancelAnalysis.2.Freed 0 := by
  have hReachable : fetching.cancelAnalysis.2.Reachable :=
    .move (m := .cancel) reachable_fetching trivial
  refine ⟨rfl, hReachable, rfl, fun hFreed => ?_⟩
  obtain ⟨command, hMem, _⟩ :=
    not_freed_of_recording hFreed hReachable.staffed _ List.mem_cons_self rfl _ rfl
  cases hMem

end Desk

end AuditDesk
