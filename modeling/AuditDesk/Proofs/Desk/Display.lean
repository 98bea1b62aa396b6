import AuditDesk.Proofs.Comparison.Selection
import AuditDesk.Proofs.Desk.Run

/-! The part of a desk that only a few keys reach while no dialog is open: the list with its selection, the
comparison, the dialog, and the source that a dialog may be about. The enter key, the s key and the c key may
change it, and every other key leaves it alone. -/
namespace AuditDesk

structure Display where
  history : History
  comparison : Option Comparison
  dialog : Dialog
  code : String

/-- The display once a command has been applied. -/
def Display.apply (s : Display) : Command → Display
  | .historyLoaded reports => { s with history := .ofReports reports, comparison := none }
  | _ => s

/-- Whether the move gives the desk another source. -/
def Move.givesSource : Move → Bool
  | .setSource _ _ _ => true
  | _ => false

namespace Desk

def display (d : Desk) : Display := ⟨d.history, d.comparison, d.dialog, d.code⟩

section Keys

variable (d : Desk)

theorem display_moveCursor (move : Nat → Nat) : (d.moveCursor move).display = d.display := by
  unfold moveCursor
  split <;> rfl

theorem display_down : d.down.display = d.display := by
  unfold down
  dsimp only
  split
  · rfl
  · exact display_moveCursor d _

theorem display_startAnalysis : d.startAnalysis.display = d.display := by
  unfold startAnalysis
  repeat' split
  all_goals rfl

theorem display_cancelAnalysis : d.cancelAnalysis.2.display = d.display := by
  simp only [cancelAnalysis]
  repeat' split
  all_goals rfl

theorem display_refreshHistory : d.refreshHistory.display = d.display := by
  unfold refreshHistory
  split <;> rfl

theorem display_exportReport (format : ExportFormat) : (d.exportReport format).2.display = d.display := by
  unfold exportReport
  repeat' split
  all_goals rfl

theorem display_deleteSnippet : d.deleteSnippet.display = d.display := by
  simp only [deleteSnippet]
  split <;> rfl

theorem display_toggleSelection :
    d.toggleSelection.display = { d.display with history := (d.history.toggle d.historyCursor).2 } := by
  unfold toggleSelection
  split
  · rename_i hNone
    have hOutside := (d.history.toggle_eq_none_iff d.historyCursor).mp (congrArg Prod.fst hNone)
    rw [d.history.toggle_outside hOutside]
    rfl
  · rename_i hToggle
    rw [hToggle]
    rfl

theorem display_confirmSave : d.confirmSave.display = { d.display with dialog := d.confirmSave.dialog } := by
  unfold confirmSave
  split
  · rfl
  · dsimp only
    split <;> rfl

/-- An open dialog keeps all that it takes to itself. -/
theorem display_pressInSave (code : KeyCode) :
    (d.pressInSave code).display = { d.display with dialog := (d.pressInSave code).dialog } := by
  cases code with
  | enter => exact display_confirmSave d
  | _ => rfl

theorem display_pressInInfo (code : KeyCode) :
    (d.pressInInfo code).display = { d.display with dialog := (d.pressInInfo code).dialog } := by
  unfold pressInInfo
  split <;> rfl

theorem display_pressInView (code : KeyCode) :
    (d.pressInView code).display =
      if code = .enter then d.activate.display
      else if code = .char 's' then d.openSave.display
      else if code = .char 'c' then d.compareSelection.display
      else d.display := by
  unfold pressInView
  split
  · rfl
  · rfl
  · exact display_down d
  · exact display_moveCursor d _
  · rfl
  · exact display_cancelAnalysis d
  · rfl
  · exact display_down d
  · exact display_moveCursor d _
  · exact display_startAnalysis d
  · rfl
  · exact display_refreshHistory d
  · rfl
  · exact display_exportReport d _
  · exact display_exportReport d _
  · rfl
  · split
    · exact display_deleteSnippet d
    · rfl
  · simp_all

end Keys

theorem display_foldl_notify (warnings : List String) (d : Desk) :
    (warnings.foldl (fun d warning => d.notify .warning "Startup" warning) d).display = d.display := by
  induction warnings generalizing d with
  | nil => rfl
  | cons warning warnings ih => exact ih _

theorem display_start (policy : PollPolicy) (exportDir : String) (files : FileTree) (storage : Storage)
    (store : SnippetStore) (warnings : List String) :
    (start policy exportDir files storage store warnings).display = ⟨.empty, none, .closed, ""⟩ :=
  display_foldl_notify warnings _

theorem display_apply (d : Desk) (command : Command) : (d.apply command).display = d.display.apply command := by
  cases command with
  | analysisFinished report =>
      simp only [apply, finishAnalysis]
      split <;> rfl
  | _ => rfl

/-- Besides keys and commands only another source reaches the display. -/
theorem display_move (d : Desk) {m : Move} (hSource : m.givesSource = false) (hPress : ∀ key, m ≠ .press key)
    (hDeliver : m ≠ .deliver) : (d.move m).display = d.display := by
  cases m with
  | press key => exact absurd rfl (hPress key)
  | setSource => cases hSource
  | refresh => exact display_refreshHistory d
  | cancel => exact display_cancelAnalysis d
  | send id =>
      simp only [move, send]
      split <;> rfl
  | deliver => exact absurd rfl hDeliver
  | _ => rfl

end Desk

end AuditDesk
