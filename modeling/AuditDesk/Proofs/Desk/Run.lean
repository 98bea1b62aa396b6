import AuditDesk.Desk.Press

/-! Every way in which a desk can come about, for any user, any service and any order in which the
workers, their commands and the user take their turns. Most of what a user does leaves the workers and
their commands alone; that part of a desk is its work. -/
namespace AuditDesk

open Service

/-- The part of a desk that analyses and fetches of the history go by. -/
structure Work where
  analysis : AnalysisStatus
  cancellable : Option Nat
  loading : Bool
  policy : PollPolicy
  workers : List Worker
  nextWorker : Nat
  queue : List Command

namespace Desk

def work (d : Desk) : Work :=
  ⟨d.analysis, d.cancellable, d.loading, d.policy, d.workers, d.nextWorker, d.queue⟩

section Keys

variable (d : Desk)

@[simp]
theorem work_notify (level : NoticeLevel) (title message : String) :
    (d.notify level title message).work = d.work := by
  simp only [work, notify]

theorem work_moveCursor (move : Nat → Nat) : (d.moveCursor move).work = d.work := by
  cases hView : d.view <;> simp only [moveCursor, hView] <;> rfl

theorem work_down : d.down.work = d.work := by
  simp only [down]
  split
  · rfl
  · exact work_moveCursor d _

theorem work_exportReport (format : ExportFormat) : (d.exportReport format).2.work = d.work := by
  simp only [exportReport]
  split
  · rfl
  · split <;> rfl

theorem work_toggleSelection : d.toggleSelection.work = d.work := by
  simp only [toggleSelection]
  split <;> rfl

theorem work_compareSelection : d.compareSelection.work = d.work := by
  simp only [compareSelection]
  split <;> rfl

theorem work_openSave : d.openSave.work = d.work := by
  simp only [openSave]
  split <;> rfl

theorem work_confirmSave : d.confirmSave.work = d.work := by
  simp only [confirmSave]
  split
  · rfl
  · split <;> rfl

theorem work_loadSnippet : d.loadSnippet.work = d.work := by
  simp only [loadSnippet]
  split <;> rfl

theorem work_deleteSnippet : d.deleteSnippet.work = d.work := by
  simp only [deleteSnippet]
  split <;> rfl

theorem work_openInfo : d.openInfo.work = d.work := by
  simp only [openInfo]
  split <;> rfl

theorem work_activate : d.activate.work = d.work := by
  simp only [activate]
  split
  · exact work_openInfo d
  · exact work_loadSnippet d
  · exact work_toggleSelection d
  · rfl

theorem work_pressInSave (code : KeyCode) : (d.pressInSave code).work = d.work := by
  cases code with
  | enter => exact work_confirmSave d
  | _ => rfl

theorem work_pressInInfo (code : KeyCode) : (d.pressInInfo code).work = d.work := by
  unfold pressInInfo
  split <;> rfl

/-- What a key can do to the work of a desk. -/
inductive KeyEffect : Desk → Prop
  | starts : KeyEffect d.startAnalysis
  | cancels : KeyEffect d.cancelAnalysis.2
  | refreshes : KeyEffect d.refreshHistory
  | keeps {after : Desk} (h : after.work = d.work) : KeyEffect after

theorem pressInView_effect (code : KeyCode) : d.KeyEffect (d.pressInView code) := by
  unfold pressInView
  split
  · exact .keeps rfl
  · exact .keeps rfl
  · exact .keeps (work_down d)
  · exact .keeps (work_moveCursor d _)
  · exact .keeps (work_activate d)
  · exact .cancels
  · exact .keeps rfl
  · exact .keeps (work_down d)
  · exact .keeps (work_moveCursor d _)
  · exact .starts
  · exact .keeps (work_openSave d)
  · exact .refreshes
  · exact .keeps (work_compareSelection d)
  · exact .keeps (work_exportReport d _)
  · exact .keeps (work_exportReport d _)
  · exact .keeps rfl
  · split
    · exact .keeps (work_deleteSnippet d)
    · exact .keeps rfl
  · exact .keeps rfl

theorem press_effect (key : KeyEvent) : d.KeyEffect (d.press key) := by
  unfold press
  split
  · exact .keeps rfl
  split
  · exact .keeps rfl
  split
  · exact .keeps (work_pressInSave d _)
  · exact .keeps (work_pressInInfo d _)
  · exact pressInView_effect d _

end Keys

end Desk

/-- One turn of the user, a worker or the surroundings. -/
inductive Move where
  | press (key : KeyEvent)
  | setSource (code : String) (language : Language) (label : Option String)
  | refresh
  | cancel
  | dismiss (notice : Nat)
  /-- It gets later, and notices that are no longer live go. -/
  | pass (now : Nat)
  /-- The files become these, and just these operations of the storage fail from now on. -/
  | disturb (files : FileTree) (failing : List StorageAccess)
  | commence (worker : Nat)
  | happen (worker : Nat) (event : Event)
  | send (worker : Nat)
  | deliver

/-- Whether an event may come to a worker: a cancellation only when the user has cancelled, and any
other only while its action is under way. -/
def Worker.MayMeet (w : Worker) : Event → Prop
  | .cancelled => w.cancelled = true
  | _ => w.begun = true

namespace Desk

def move (d : Desk) : Move → Desk
  | .press key => d.press key
  | .setSource code language label => d.setSource code language label
  | .refresh => d.refreshHistory
  | .cancel => d.cancelAnalysis.2
  | .dismiss notice => d.dismiss notice
  | .pass now => { d with now := now, notices := d.notices.expire now }
  | .disturb files failing => { d with files := files, storage := { d.storage with failing := failing } }
  | .commence id => d.commence id
  | .happen id event => d.happen id event
  | .send id => d.send id
  | .deliver => d.deliver.2

/-- The user and the surroundings are free to do anything; a worker does what its errand needs next, and
the service may answer anything or nothing. -/
def Allows (d : Desk) : Move → Prop
  | .commence id => ∃ w, d.worker? id = some w ∧ w.begun = false ∧
      (w.errand.action? d.policy).isSome = true
  | .happen id event => ∃ w, d.worker? id = some w ∧ w.MayMeet event ∧
      (w.errand.step d.policy event).isSome = true
  | .send id => ∃ w commands, d.worker? id = some w ∧ w.errand = .sending commands
  | .deliver => d.queue ≠ []
  | _ => True

/-- The desks that can come about. -/
inductive Reachable : Desk → Prop
  | start (policy : PollPolicy) (exportDir : String) (files : FileTree) (storage : Storage)
      (store : SnippetStore) (warnings : List String) :
      Reachable (.start policy exportDir files storage store warnings)
  | move {d : Desk} {m : Move} (hBefore : Reachable d) (hAllows : d.Allows m) : Reachable (d.move m)

/-- A worker that has been cancelled, and whose errand heeds that, does nothing else. -/
def Heeds (d : Desk) : Move → Prop
  | .commence id => ∀ w, d.worker? id = some w → w.stops = false
  | .happen id event => event ≠ .cancelled → ∀ w, d.worker? id = some w → w.stops = false
  | _ => True

/-- The desks that can come about when each worker looks whether it has been cancelled before it does
anything else. -/
inductive Attentive : Desk → Prop
  | start (policy : PollPolicy) (exportDir : String) (files : FileTree) (storage : Storage)
      (store : SnippetStore) (warnings : List String) :
      Attentive (.start policy exportDir files storage store warnings)
  | move {d : Desk} {m : Move} (hBefore : Attentive d) (hAllows : d.Allows m) (hHeeds : d.Heeds m) :
      Attentive (d.move m)

theorem Attentive.reachable {d : Desk} (h : d.Attentive) : d.Reachable := by
  induction h with
  | start => exact .start ..
  | move _ hAllows _ ih => exact ih.move hAllows

end Desk

end AuditDesk
