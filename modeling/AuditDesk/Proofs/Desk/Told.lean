import AuditDesk.Proofs.Comparison.Selection
import AuditDesk.Proofs.Desk.Run

/-! What the service has told the desk, the latest report and the fetched list, changes only when a command
is applied; nothing that the user does, and no other turn of a worker, touches it. -/
namespace AuditDesk

/-- The list that a command brings. -/
def Command.reports? : Command → Option (List Report)
  | .historyLoaded reports => some reports
  | _ => none

namespace Desk

/-- What the desk knows from the service. -/
structure Told where
  report : Option Report
  reports : List Report

def told (d : Desk) : Told := ⟨d.report, d.history.reports⟩

section Keys

variable (d : Desk)

theorem told_down : d.down.told = d.told := by
  simp only [down, moveCursor]
  repeat' split
  all_goals rfl

theorem told_up : d.up.told = d.told := by
  simp only [up, moveCursor]
  split <;> rfl

theorem told_toggleSelection : d.toggleSelection.told = d.told := by
  unfold toggleSelection
  split
  · rfl
  · rename_i hToggle
    have hReports := d.history.toggle_reports d.historyCursor
    rw [hToggle] at hReports
    simp only [told]
    exact congrArg (Told.mk d.report) hReports

theorem told_activate : d.activate.told = d.told := by
  unfold activate
  split
  · unfold openInfo
    split <;> rfl
  · unfold loadSnippet
    split <;> rfl
  · exact told_toggleSelection d
  · rfl

theorem told_startAnalysis : d.startAnalysis.told = d.told := by
  unfold startAnalysis
  repeat' split
  all_goals rfl

theorem told_cancelAnalysis : d.cancelAnalysis.2.told = d.told := by
  simp only [cancelAnalysis]
  repeat' split
  all_goals rfl

theorem told_exportReport (format : ExportFormat) : (d.exportReport format).2.told = d.told := by
  unfold exportReport
  repeat' split
  all_goals rfl

theorem told_refreshHistory : d.refreshHistory.told = d.told := by
  unfold refreshHistory
  split <;> rfl

theorem told_confirmSave : d.confirmSave.told = d.told := by
  unfold confirmSave
  split
  · rfl
  · dsimp only
    split <;> rfl

theorem told_pressInSave (code : KeyCode) : (d.pressInSave code).told = d.told := by
  cases code with
  | enter => exact told_confirmSave d
  | _ => rfl

theorem told_pressInView (code : KeyCode) : (d.pressInView code).told = d.told := by
  unfold pressInView
  split
  · rfl
  · rfl
  · exact told_down d
  · exact told_up d
  · exact told_activate d
  · exact told_cancelAnalysis d
  · rfl
  · exact told_down d
  · exact told_up d
  · exact told_startAnalysis d
  · unfold openSave
    split <;> rfl
  · exact told_refreshHistory d
  · unfold compareSelection
    split <;> rfl
  · exact told_exportReport d _
  · exact told_exportReport d _
  · rfl
  · simp only [deleteSnippet]
    repeat' split
    all_goals rfl
  · rfl

theorem told_press (key : KeyEvent) : (d.press key).told = d.told := by
  unfold press
  split
  · rfl
  split
  · rfl
  split
  · exact told_pressInSave d _
  · unfold pressInInfo
    split <;> rfl
  · exact told_pressInView d _

end Keys

theorem told_send (d : Desk) (id : Nat) : (d.send id).told = d.told := by
  unfold send
  split <;> rfl

/-- What the desk knows once a command has been applied. -/
def Told.apply (t : Told) : Command → Told
  | .analysisFinished report => { t with report := some report }
  | .historyLoaded reports => { t with reports := reports }
  | _ => t

theorem Told.reports_apply (t : Told) (command : Command) :
    (t.apply command).reports = command.reports?.getD t.reports := by
  cases command <;> rfl

theorem told_apply (d : Desk) (command : Command) : (d.apply command).told = d.told.apply command := by
  cases command with
  | analysisFinished report =>
      simp only [apply, finishAnalysis]
      split <;> rfl
  | _ => rfl

theorem told_foldl_notify (warnings : List String) (d : Desk) :
    (warnings.foldl (fun d warning => d.notify .warning "Startup" warning) d).told = d.told := by
  induction warnings generalizing d with
  | nil => rfl
  | cons warning warnings ih => exact ih _

theorem told_start (policy : PollPolicy) (exportDir : String) (files : FileTree) (storage : Storage)
    (store : SnippetStore) (warnings : List String) :
    (start policy exportDir files storage store warnings).told = ⟨none, []⟩ :=
  told_foldl_notify warnings _

/-- A move that delivers no command tells the desk nothing. -/
theorem told_move (d : Desk) {m : Move} (h : m ≠ .deliver) : (d.move m).told = d.told := by
  cases m with
  | press key => exact told_press d key
  | refresh => exact told_refreshHistory d
  | cancel => exact told_cancelAnalysis d
  | send id => exact told_send d id
  | deliver => exact absurd rfl h
  | _ => rfl

end Desk

end AuditDesk
