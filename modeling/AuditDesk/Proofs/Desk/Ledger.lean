import AuditDesk.Proofs.Desk.Turn

/-! A ledger kept beside a desk. It notes which worker queued each command, and when an analysis is
started, cancelled and ended; the desk itself knows none of this. -/
namespace AuditDesk

open Service

/-- An entry about the analysis that a worker carries out. -/
inductive Mark where
  | started (worker : Nat)
  | cancelled (worker : Nat)
  | ended (worker : Nat)
deriving DecidableEq

def Mark.started? : Mark → Option Nat
  | .started worker => some worker
  | _ => none

/-- Whether an analysis is under way, and whether it has been cancelled. -/
inductive Standing where
  | idle
  | running (worker : Nat) (fired : Bool)
deriving DecidableEq

namespace Standing

/-- An analysis is started only after the one before has ended, is cancelled at most once, and is ended
by its own worker. -/
def after : Standing → Mark → Option Standing
  | .idle, .started worker => some (.running worker false)
  | .running worker false, .cancelled other =>
      if other = worker then some (.running worker true) else none
  | .running worker _, .ended other => if other = worker then some .idle else none
  | _, _ => none

/-- The worker whose analysis has not been ended yet. -/
def owed : Standing → List Nat
  | .idle => []
  | .running worker _ => [worker]

/-- The worker whose analysis can still be cancelled. -/
def handle : Standing → Option Nat
  | .running worker false => some worker
  | _ => none

def fired : Standing → Bool
  | .running _ fired => fired
  | .idle => false

theorem foldlM_cancelled (worker : Nat) :
    [Mark.cancelled worker].foldlM after (.running worker false) = some (.running worker true) := by
  simp [after]

theorem foldlM_ended (worker : Nat) (fired : Bool) :
    [Mark.ended worker].foldlM after (.running worker fired) = some .idle := by
  cases fired <;> simp [after]

end Standing

namespace Work

/-- The command that a move adds to the queue, with the number of the worker who queues it. -/
def posted (w : Work) : Move → List (Nat × Command)
  | .send id =>
      match (w.workers.find? fun worker => worker.id = id).map Worker.errand with
      | some (.sending (command :: _)) => [(id, command)]
      | _ => []
  | _ => []

/-- What a move leaves of the commands that are queued already. -/
def kept (posts : List (Nat × Command)) : Move → List (Nat × Command)
  | .deliver => posts.tail
  | _ => posts

/-- An analysis is started when the status turns to running, by the worker employed for it. -/
def beginnings (before after : Work) : List Mark :=
  if before.analysis ≠ .running ∧ after.analysis = .running then [.started before.nextWorker] else []

/-- An analysis is cancelled when its handle is given up while it goes on. -/
def cancellations (before after : Work) : List Mark :=
  match before.cancellable, after.cancellable with
  | some worker, none => if after.analysis = .running then [.cancelled worker] else []
  | _, _ => []

/-- An analysis is ended when a command that ends an analysis is applied. -/
def endings (posts : List (Nat × Command)) : Move → List Mark
  | .deliver =>
      match posts with
      | (worker, command) :: _ => if command.endsAnalysis then [.ended worker] else []
      | [] => []
  | _ => []

def marks (before after : Work) (posts : List (Nat × Command)) (m : Move) : List Mark :=
  before.beginnings after ++ before.cancellations after ++ endings posts m

/-- The workers who have still to queue the command that ends their analysis. -/
def analysts (workers : List Worker) : List Nat :=
  (workers.filter fun worker => worker.errand.isAnalysis).map Worker.id

/-- The workers whose command that ends an analysis is queued. -/
def announced (posts : List (Nat × Command)) : List Nat :=
  (posts.filter fun post => post.2.endsAnalysis).map Prod.fst

end Work

/-- A desk, who queued which of its commands, and what has become of its analyses. -/
structure Ledger where
  desk : Desk
  posts : List (Nat × Command)
  log : List Mark

namespace Ledger

def after (l : Ledger) (m : Move) : Ledger where
  desk := l.desk.move m
  posts := Work.kept l.posts m ++ l.desk.work.posted m
  log := l.log ++ l.desk.work.marks (l.desk.move m).work l.posts m

/-- The ledgers that can come about. -/
inductive Reachable : Ledger → Prop
  | start (policy : PollPolicy) (exportDir : String) (files : FileTree) (storage : Storage)
      (store : SnippetStore) (warnings : List String) :
      Reachable ⟨.start policy exportDir files storage store warnings, [], []⟩
  | move {l : Ledger} {m : Move} (hBefore : Reachable l) (hAllows : l.desk.Allows m) :
      Reachable (l.after m)

theorem Reachable.desk {l : Ledger} (h : l.Reachable) : l.desk.Reachable := by
  induction h with
  | start policy exportDir files storage store warnings => exact .start ..
  | move _ hAllows ih => exact ih.move hAllows

/-- Every run of a desk has its ledger. -/
theorem exists_of_reachable {d : Desk} (h : d.Reachable) : ∃ l : Ledger, l.Reachable ∧ l.desk = d := by
  induction h with
  | start policy exportDir files storage store warnings => exact ⟨_, .start .., rfl⟩
  | @move d m _ hAllows ih =>
      obtain ⟨l, hReachable, rfl⟩ := ih
      exact ⟨l.after m, hReachable.move hAllows, rfl⟩

/-- The workers whose analysis has not been ended yet. -/
def owing (l : Ledger) : List Nat := Work.analysts l.desk.workers ++ Work.announced l.posts

end Ledger

namespace Work

section Marks

variable {w after : Work} {posts : List (Nat × Command)} {m : Move}

theorem kept_of_user (posts : List (Nat × Command)) (hUser : m.isUsers = true) :
    kept posts m = posts := by
  cases m <;> first | rfl | cases hUser

theorem posted_of_user (w : Work) (hUser : m.isUsers = true) : w.posted m = [] := by
  cases m <;> first | rfl | cases hUser

theorem endings_of_user (posts : List (Nat × Command)) (hUser : m.isUsers = true) :
    endings posts m = [] := by
  cases m <;> first | rfl | cases hUser

theorem posted_send (hStaffed : w.Staffed) {worker : Worker} (hMem : worker ∈ w.workers)
    {commands : List Command} (hErrand : worker.errand = .sending commands) :
    w.posted (.send worker.id) = (commands.take 1).map fun command => (worker.id, command) := by
  simp only [posted, hStaffed.find? hMem, Option.map_some, hErrand]
  cases commands <;> rfl

theorem exists_of_posted {id : Nat} {command : Command} (hPosted : (id, command) ∈ w.posted m) :
    ∃ worker ∈ w.workers, worker.id = id ∧ ∃ commands, worker.errand = .sending commands := by
  cases m with
  | send sender =>
      simp only [posted] at hPosted
      split at hPosted
      · rename_i first rest hSending
        obtain ⟨worker, hWorker, hErrand⟩ := Option.map_eq_some_iff.mp hSending
        have hFits := List.find?_some hWorker
        cases List.mem_singleton.mp hPosted
        exact ⟨worker, List.mem_of_find?_eq_some hWorker, of_decide_eq_true hFits, _, hErrand⟩
      · cases hPosted
  | _ => cases hPosted

theorem beginnings_of_same (hAnalysis : after.analysis = w.analysis) : w.beginnings after = [] := by
  rw [beginnings, hAnalysis, if_neg fun h => h.1 h.2]

theorem cancellations_of_same (hHandle : after.cancellable = w.cancellable) :
    w.cancellations after = [] := by
  rw [cancellations, hHandle]
  cases w.cancellable <;> rfl

theorem cancellations_of_stopped (hStopped : after.analysis ≠ .running) :
    w.cancellations after = [] := by
  unfold cancellations
  split
  · exact if_neg hStopped
  · rfl

theorem cancellations_cancel {id : Nat} (hHandle : w.cancellable = some id)
    (hRunning : w.analysis = .running) : w.cancellations (w.cancel id) = [.cancelled id] := by
  rw [cancellations, hHandle]
  exact if_pos hRunning

theorem marks_of_quiet (hAnalysis : after.analysis = w.analysis)
    (hHandle : after.cancellable = w.cancellable) : w.marks after posts m = endings posts m := by
  rw [marks, beginnings_of_same hAnalysis, cancellations_of_same hHandle]
  rfl

theorem marks_of_user (hUser : m.isUsers = true) :
    w.marks after posts m = w.beginnings after ++ w.cancellations after := by
  rw [marks, endings_of_user posts hUser, List.append_nil]

theorem starts_marks : (w.marks after posts m).filterMap Mark.started? =
    if w.analysis ≠ .running ∧ after.analysis = .running then [w.nextWorker] else [] := by
  have hCancellations : (w.cancellations after).filterMap Mark.started? = [] := by
    unfold cancellations
    split
    · split <;> rfl
    · rfl
  have hEndings : (endings posts m).filterMap Mark.started? = [] := by
    unfold endings
    split
    · split
      · split <;> rfl
      · rfl
    · rfl
  rw [marks, List.filterMap_append, List.filterMap_append, hCancellations, hEndings, beginnings]
  split <;> rfl

end Marks

end Work

end AuditDesk
