import AuditDesk.Proofs.Desk.Run

/-! What one move does to the work of a desk, said once. Workers are numbered in the order in which they
were employed, so a number belongs to one worker for good. -/
namespace AuditDesk

open Service

/-- Whether the move is not one of a worker, nor the delivery of a command. -/
def Move.isUsers : Move → Bool
  | .commence _ | .happen _ _ | .send _ | .deliver => false
  | _ => true

/-- How an errand may look after a move: it is as it was, something has happened, or one of its commands
has been queued. -/
inductive Errand.GoesOn (policy : PollPolicy) : Errand → Errand → Prop
  | stays (errand : Errand) : GoesOn policy errand errand
  | steps {errand next : Errand} {event : Event} (hStep : errand.step policy event = some next) :
      GoesOn policy errand next
  | tells (command : Command) (rest : List Command) :
      GoesOn policy (.sending (command :: rest)) (.sending rest)

namespace Work

def employ (w : Work) (errand : Errand) : Work :=
  { w with
    workers := w.workers ++ [⟨w.nextWorker, errand, false, false⟩]
    nextWorker := w.nextWorker + 1 }

/-- Puts a worker in the place of the one with its number. -/
def replace (w : Work) (worker : Worker) : Work :=
  { w with workers := w.workers.map fun other => if other.id = worker.id then worker else other }

def cancel (w : Work) (id : Nat) : Work :=
  { w with
    cancellable := none
    workers := w.workers.map fun other =>
      if other.id = id then { other with cancelled := true } else other }

/-- The work once a command has been applied. -/
def apply (w : Work) : Command → Work
  | .analysisFinished report =>
      { w with analysis := .finished report.findings.length, cancellable := none }
  | .analysisFailed message =>
      { w with analysis := .failed message, cancellable := none, loading := false }
  | .historyLoaded _ | .historyFailed _ => { w with loading := false }
  | .notify _ _ _ => w

theorem workers_apply (w : Work) (command : Command) : (w.apply command).workers = w.workers := by
  cases command <;> rfl

theorem queue_apply (w : Work) (command : Command) : (w.apply command).queue = w.queue := by
  cases command <;> rfl

/-- What a move makes of the work of a desk. -/
inductive Turn (w : Work) : Move → Work → Prop
  | keeps {m : Move} (hUser : m.isUsers = true) : Turn w m w
  | starts {m : Move} (hUser : m.isUsers = true) (hIdle : w.analysis ≠ .running) (request : Request) :
      Turn w m { w.employ (.analysis request .asking) with
        analysis := .running, cancellable := some w.nextWorker, loading := true }
  | cancels {m : Move} (hUser : m.isUsers = true) {id : Nat} (hHandle : w.cancellable = some id)
      (hRunning : w.analysis = .running) : Turn w m (w.cancel id)
  | drops {m : Move} (hUser : m.isUsers = true) {id : Nat} (hHandle : w.cancellable = some id)
      (hIdle : w.analysis ≠ .running) : Turn w m { w with cancellable := none }
  | fetches {m : Move} (hUser : m.isUsers = true) (hLoaded : w.loading = false) :
      Turn w m { w.employ .listing with loading := true }
  | commences {worker : Worker} (hMem : worker ∈ w.workers) (hBegun : worker.begun = false)
      (hAction : (worker.errand.action? w.policy).isSome = true) :
      Turn w (.commence worker.id) (w.replace { worker with begun := true })
  | happens {worker : Worker} {event : Event} {next : Errand} (hMem : worker ∈ w.workers)
      (hMeet : worker.MayMeet event) (hStep : worker.errand.step w.policy event = some next) :
      Turn w (.happen worker.id event) (w.replace { worker with errand := next, begun := false })
  | sends {worker : Worker} {command : Command} {rest : List Command} (hMem : worker ∈ w.workers)
      (hErrand : worker.errand = .sending (command :: rest)) :
      Turn w (.send worker.id)
        { w.replace { worker with errand := .sending rest } with queue := w.queue ++ [command] }
  | leaves {worker : Worker} (hMem : worker ∈ w.workers) (hErrand : worker.errand = .sending []) :
      Turn w (.send worker.id)
        { w with workers := w.workers.filter fun other => other.id ≠ worker.id }
  | delivers {command : Command} {rest : List Command} (hQueue : w.queue = command :: rest) :
      Turn w .deliver ({ w with queue := rest }.apply command)

/-- The workers are in order, and no number of theirs will be given again. -/
structure Staffed (w : Work) : Prop where
  ordered : (w.workers.map Worker.id).Pairwise (· < ·)
  known : ∀ worker ∈ w.workers, worker.id < w.nextWorker

theorem Staffed.eq_of_id {w : Work} (h : w.Staffed) {worker other : Worker}
    (hWorker : worker ∈ w.workers) (hOther : other ∈ w.workers) (hId : worker.id = other.id) :
    worker = other := by
  have hOrdered : w.workers.Pairwise fun a b => a.id < b.id := List.pairwise_map.mp h.ordered
  refine List.Pairwise.forall_of_forall_of_flip (R := fun a b => a.id = b.id → a = b)
    (fun _ _ _ => rfl) (hOrdered.imp fun hLt hEq => ?_) (hOrdered.imp fun hLt hEq => ?_)
    hWorker hOther hId
  · exact absurd hEq (Nat.ne_of_lt hLt)
  · exact absurd hEq.symm (Nat.ne_of_lt hLt)

theorem Staffed.find? {w : Work} (h : w.Staffed) {worker : Worker} (hMem : worker ∈ w.workers) :
    (w.workers.find? fun other => other.id = worker.id) = some worker := by
  cases hFound : w.workers.find? fun other => other.id = worker.id with
  | none => exact absurd (decide_eq_true rfl) (List.find?_eq_none.mp hFound worker hMem)
  | some other =>
      have hFits := List.find?_some hFound
      have hId : other.id = worker.id := of_decide_eq_true hFits
      rw [h.eq_of_id (List.mem_of_find?_eq_some hFound) hMem hId]

theorem replace_eq_map {w : Work} (h : w.Staffed) {worker : Worker} (hMem : worker ∈ w.workers)
    (change : Worker → Worker) (hChange : (change worker).id = worker.id) :
    w.replace (change worker) =
      { w with workers := w.workers.map fun other =>
          if other.id = worker.id then change other else other } := by
  have hWorkers : (w.workers.map fun other =>
      if other.id = (change worker).id then change worker else other) =
        w.workers.map fun other => if other.id = worker.id then change other else other := by
    refine List.map_congr_left fun other hOther => ?_
    rw [hChange]
    split
    · rename_i hId
      rw [h.eq_of_id hOther hMem hId]
    · rfl
  rw [replace, hWorkers]

end Work

namespace Work

section Staff

variable {w : Work}

theorem ids_replace (w : Work) (worker : Worker) :
    (w.replace worker).workers.map Worker.id = w.workers.map Worker.id := by
  simp only [replace, List.map_map]
  refine List.map_congr_left fun other _ => ?_
  simp only [Function.comp_apply]
  split
  · rename_i hId
    exact hId.symm
  · rfl

theorem mem_replace {worker other : Worker} (h : other ∈ (w.replace worker).workers) :
    other = worker ∨ other ∈ w.workers ∧ other.id ≠ worker.id := by
  obtain ⟨before, hBefore, rfl⟩ := List.mem_map.mp h
  split
  · exact .inl rfl
  · rename_i hId
    exact .inr ⟨hBefore, hId⟩

/-- What counts for order are the numbers alone. -/
theorem Staffed.of_ids {after : Work} (h : w.Staffed)
    (hIds : (after.workers.map Worker.id).Sublist (w.workers.map Worker.id))
    (hNext : after.nextWorker = w.nextWorker) : after.Staffed := by
  refine ⟨h.ordered.sublist hIds, fun worker hMem => ?_⟩
  obtain ⟨before, hBefore, hId⟩ := List.mem_map.mp (hIds.subset (List.mem_map_of_mem hMem))
  rw [← hId, hNext]
  exact h.known before hBefore

theorem Staffed.of_same_ids {after : Work} (h : w.Staffed)
    (hIds : after.workers.map Worker.id = w.workers.map Worker.id)
    (hNext : after.nextWorker = w.nextWorker) : after.Staffed :=
  h.of_ids (hIds ▸ List.Sublist.refl _) hNext

theorem Staffed.employ (h : w.Staffed) (errand : Errand) : (w.employ errand).Staffed := by
  refine ⟨?_, fun worker hMem => ?_⟩
  · simp only [Work.employ, List.map_append, List.map_cons, List.map_nil]
    refine List.pairwise_append.mpr ⟨h.ordered, List.pairwise_singleton _ _, ?_⟩
    intro id hId last hLast
    obtain ⟨worker, hMem, rfl⟩ := List.mem_map.mp hId
    rw [List.mem_singleton.mp hLast]
    exact h.known worker hMem
  · rcases List.mem_append.mp hMem with hOld | hNew
    · exact Nat.lt_succ_of_lt (h.known worker hOld)
    · rw [List.mem_singleton.mp hNew]
      exact Nat.lt_succ_self _

theorem Staffed.turn {m : Move} {after : Work} (h : w.Staffed) (hTurn : w.Turn m after) :
    after.Staffed := by
  cases hTurn with
  | keeps => exact h
  | starts _ _ request => exact ⟨(h.employ _).ordered, (h.employ _).known⟩
  | @cancels _ _ id =>
      refine h.of_same_ids ?_ rfl
      simp only [cancel, List.map_map]
      refine List.map_congr_left fun other _ => ?_
      simp only [Function.comp_apply]
      split <;> rfl
  | drops => exact ⟨h.ordered, h.known⟩
  | fetches => exact ⟨(h.employ _).ordered, (h.employ _).known⟩
  | commences => exact h.of_same_ids (ids_replace w _) rfl
  | happens => exact h.of_same_ids (ids_replace w _) rfl
  | sends => exact h.of_same_ids (ids_replace w _) rfl
  | leaves => exact h.of_ids (List.Sublist.map _ List.filter_sublist) rfl
  | @delivers command rest =>
      cases command <;> exact ⟨h.ordered, h.known⟩

/-- Where a worker comes from: it is new and has done nothing yet, or it was there before and has gone on.
Only the cancellation of its own analysis changes whether it is cancelled. -/
theorem Turn.origin {m : Move} {after : Work} (hTurn : w.Turn m after) {worker : Worker}
    (hMem : worker ∈ after.workers) :
    (∃ errand, worker = ⟨w.nextWorker, errand, false, false⟩ ∧
      (errand = .listing ∨ ∃ request, errand = .analysis request .asking)) ∨
    ∃ before ∈ w.workers, worker.id = before.id ∧
      Errand.GoesOn w.policy before.errand worker.errand ∧
      (worker.cancelled = before.cancelled ∨
        w.cancellable = some worker.id ∧ w.analysis = .running ∧ after = w.cancel worker.id) := by
  have hStays : ∀ before ∈ w.workers, ∃ other ∈ w.workers, before.id = other.id ∧
      Errand.GoesOn w.policy other.errand before.errand ∧ (before.cancelled = other.cancelled ∨
        w.cancellable = some before.id ∧ w.analysis = .running ∧ after = w.cancel before.id) :=
    fun before hBefore => ⟨before, hBefore, rfl, .stays _, .inl rfl⟩
  have hReplaced : ∀ {before new : Worker}, worker ∈ (w.replace new).workers → before ∈ w.workers →
      new.id = before.id → new.cancelled = before.cancelled →
      Errand.GoesOn w.policy before.errand new.errand →
      ∃ before ∈ w.workers, worker.id = before.id ∧
        Errand.GoesOn w.policy before.errand worker.errand ∧ (worker.cancelled = before.cancelled ∨
          w.cancellable = some worker.id ∧ w.analysis = .running ∧ after = w.cancel worker.id) := by
    intro before new hWorker hBefore hId hCancelled hErrand
    rcases mem_replace hWorker with rfl | ⟨hOld, _⟩
    · exact ⟨before, hBefore, hId, hErrand, .inl hCancelled⟩
    · exact hStays worker hOld
  cases hTurn with
  | keeps => exact .inr (hStays worker hMem)
  | starts _ _ request =>
      rcases List.mem_append.mp hMem with hOld | hNew
      · exact .inr (hStays worker hOld)
      · exact .inl ⟨_, List.mem_singleton.mp hNew, .inr ⟨request, rfl⟩⟩
  | @cancels _ _ id hHandle hRunning =>
      right
      obtain ⟨before, hBefore, rfl⟩ := List.mem_map.mp hMem
      by_cases hId : before.id = id
      · subst hId
        rw [if_pos rfl]
        exact ⟨before, hBefore, rfl, .stays _, .inr ⟨hHandle, hRunning, rfl⟩⟩
      · rw [if_neg hId]
        exact hStays before hBefore
  | drops => exact .inr (hStays worker hMem)
  | fetches =>
      rcases List.mem_append.mp hMem with hOld | hNew
      · exact .inr (hStays worker hOld)
      · exact .inl ⟨_, List.mem_singleton.mp hNew, .inl rfl⟩
  | commences hBefore => exact .inr (hReplaced hMem hBefore rfl rfl (.stays _))
  | happens hBefore hMeet hStep => exact .inr (hReplaced hMem hBefore rfl rfl (.steps hStep))
  | sends hBefore hErrand =>
      exact .inr (hReplaced hMem hBefore rfl rfl (hErrand ▸ .tells _ _))
  | leaves => exact .inr (hStays worker (List.mem_filter.mp hMem).1)
  | delivers =>
      rw [workers_apply] at hMem
      exact .inr (hStays worker hMem)

end Staff

end Work

namespace Desk

theorem mem_of_worker? {d : Desk} {id : Nat} {worker : Worker} (h : d.worker? id = some worker) :
    worker ∈ d.work.workers ∧ worker.id = id := by
  have hId := List.find?_some h
  exact ⟨List.mem_of_find?_eq_some h, of_decide_eq_true hId⟩

theorem worker?_of_mem {d : Desk} (hStaffed : d.work.Staffed) {worker : Worker}
    (hMem : worker ∈ d.work.workers) : d.worker? worker.id = some worker :=
  hStaffed.find? hMem

theorem work_changeWorker {d : Desk} (hStaffed : d.work.Staffed) {worker : Worker}
    (hMem : worker ∈ d.work.workers) (change : Worker → Worker)
    (hChange : (change worker).id = worker.id) :
    (d.changeWorker worker.id change).work = d.work.replace (change worker) := by
  rw [Work.replace_eq_map hStaffed hMem change hChange]
  rfl

theorem mem_replace_self {d : Desk} {worker : Worker} (hMem : worker ∈ d.workers) {next : Worker}
    (hId : next.id = worker.id) : next ∈ (d.work.replace next).workers :=
  List.mem_map.mpr ⟨worker, hMem, if_pos hId.symm⟩

theorem work_commence {d : Desk} (hStaffed : d.work.Staffed) {worker : Worker}
    (hMem : worker ∈ d.work.workers) :
    (d.commence worker.id).work = d.work.replace { worker with begun := true } :=
  work_changeWorker hStaffed hMem (fun w => { w with begun := true }) rfl

theorem work_happen {d : Desk} (hStaffed : d.work.Staffed) {worker : Worker}
    (hMem : worker ∈ d.work.workers) {event : Event} {next : Errand}
    (hStep : worker.errand.step d.policy event = some next) :
    (d.happen worker.id event).work = d.work.replace { worker with errand := next, begun := false } := by
  have hAfter : (worker.after d.policy event).getD worker =
      { worker with errand := next, begun := false } := by
    simp only [Worker.after, hStep, Option.map_some, Option.getD_some]
  rw [← hAfter]
  exact work_changeWorker hStaffed hMem (fun w => (w.after d.policy event).getD w) (by rw [hAfter])

section Turns

variable {d : Desk} {m : Move}

theorem turn_startAnalysis (hUser : m.isUsers = true) : d.work.Turn m d.startAnalysis.work := by
  unfold startAnalysis
  split
  · exact .keeps hUser
  · rename_i hIdle
    split
    · exact .keeps hUser
    · exact .starts hUser (fun hRunning => hIdle (decide_eq_true hRunning)) ⟨d.code, d.language⟩

theorem turn_cancelAnalysis (hUser : m.isUsers = true) :
    d.work.Turn m d.cancelAnalysis.2.work := by
  cases hHandle : d.cancellable with
  | none =>
      have hCancel : d.cancelAnalysis.2 = d := by simp only [cancelAnalysis, hHandle]
      rw [hCancel]
      exact .keeps hUser
  | some id =>
      simp only [cancelAnalysis, hHandle]
      split
      · rename_i hRunning
        exact .cancels hUser hHandle (of_decide_eq_true hRunning)
      · rename_i hIdle
        exact .drops hUser hHandle fun hRunning => hIdle (decide_eq_true hRunning)

theorem turn_refreshHistory (hUser : m.isUsers = true) : d.work.Turn m d.refreshHistory.work := by
  unfold refreshHistory
  split
  · exact .keeps hUser
  · rename_i hLoading
    exact .fetches hUser (Bool.eq_false_iff.mpr hLoading)

theorem turn_press (key : KeyEvent) : d.work.Turn (.press key) (d.press key).work := by
  have hEffect := press_effect d key
  generalize d.press key = after at hEffect ⊢
  cases hEffect with
  | starts => exact turn_startAnalysis rfl
  | cancels => exact turn_cancelAnalysis rfl
  | refreshes => exact turn_refreshHistory rfl
  | keeps hKept =>
      rw [hKept]
      exact .keeps rfl

theorem work_apply (command : Command) : (d.apply command).work = d.work.apply command := by
  cases command with
  | analysisFinished report =>
      simp only [apply, finishAnalysis]
      split <;> rfl
  | analysisFailed message => rfl
  | historyLoaded reports => rfl
  | historyFailed message => rfl
  | notify level title message => rfl

/-- Every move that is possible is one of the turns. -/
theorem turn_move (hStaffed : d.work.Staffed) (hAllows : d.Allows m) :
    d.work.Turn m (d.move m).work := by
  cases m with
  | press key => exact turn_press key
  | setSource code language label => exact .keeps rfl
  | refresh => exact turn_refreshHistory rfl
  | cancel => exact turn_cancelAnalysis rfl
  | dismiss notice => exact .keeps rfl
  | pass now => exact .keeps rfl
  | disturb files failing => exact .keeps rfl
  | commence id =>
      obtain ⟨worker, hWorker, hBegun, hAction⟩ := hAllows
      obtain ⟨hMem, rfl⟩ := mem_of_worker? hWorker
      rw [move, work_commence hStaffed hMem]
      exact .commences hMem hBegun hAction
  | happen id event =>
      obtain ⟨worker, hWorker, hMeet, hSome⟩ := hAllows
      obtain ⟨hMem, rfl⟩ := mem_of_worker? hWorker
      obtain ⟨next, hStep⟩ := Option.isSome_iff_exists.mp hSome
      rw [move, work_happen hStaffed hMem hStep]
      exact .happens hMem hMeet hStep
  | send id =>
      obtain ⟨worker, commands, hWorker, hErrand⟩ := hAllows
      have hSending : (d.worker? id).map Worker.errand = some (.sending commands) := by
        rw [hWorker, Option.map_some, hErrand]
      obtain ⟨hMem, rfl⟩ := mem_of_worker? hWorker
      cases commands with
      | nil =>
          have hWork : (d.move (.send worker.id)).work =
              { d.work with
                workers := d.work.workers.filter fun other => other.id ≠ worker.id } := by
            simp only [move, send, hSending]
            rfl
          rw [hWork]
          exact .leaves hMem hErrand
      | cons command rest =>
          have hChange := work_changeWorker hStaffed hMem
            (fun w => { w with errand := .sending rest }) rfl
          have hWork : (d.move (.send worker.id)).work =
              { d.work.replace { worker with errand := .sending rest } with
                queue := d.work.queue ++ [command] } := by
            rw [← hChange]
            simp only [move, send, hSending]
            rfl
          rw [hWork]
          exact .sends hMem hErrand
  | deliver =>
      obtain ⟨command, rest, hQueue⟩ := List.exists_cons_of_ne_nil hAllows
      have hWork : (d.move .deliver).work = { d.work with queue := rest }.apply command := by
        simp only [move, deliver, hQueue]
        exact work_apply command
      rw [hWork]
      exact .delivers hQueue

end Turns

theorem work_foldl_notify (warnings : List String) (d : Desk) :
    (warnings.foldl (fun d warning => d.notify .warning "Startup" warning) d).work = d.work := by
  induction warnings generalizing d with
  | nil => rfl
  | cons warning warnings ih => rw [List.foldl_cons, ih, work_notify]

/-- Nothing is under way at the start. -/
theorem work_start (policy : PollPolicy) (exportDir : String) (files : FileTree) (storage : Storage)
    (store : SnippetStore) (warnings : List String) :
    (start policy exportDir files storage store warnings).work =
      ⟨.idle, none, false, policy, [], 0, []⟩ := by
  unfold start
  rw [work_foldl_notify]
  rfl

theorem Reachable.staffed {d : Desk} (h : d.Reachable) : d.work.Staffed := by
  induction h with
  | start policy exportDir files storage store warnings =>
      rw [work_start]
      exact ⟨.nil, fun _ hMem => absurd hMem List.not_mem_nil⟩
  | move hBefore hAllows ih => exact ih.turn (turn_move ih hAllows)

end Desk

end AuditDesk
