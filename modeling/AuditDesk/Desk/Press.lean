import AuditDesk.Desk.Actions
import AuditDesk.Desk.Key

/-!
What each key does. An open dialog takes all keys for itself, except the one that always quits.
-/
namespace AuditDesk.Desk

def pressInSave (d : Desk) : KeyCode → Desk
  | .char c => { d with dialog := d.dialog.typed c }
  | .backspace => { d with dialog := d.dialog.backspace }
  | .enter => d.confirmSave
  | .escape => d.closeDialog
  | _ => d

def pressInInfo (d : Desk) : KeyCode → Desk
  | .escape | .enter => d.closeDialog
  | .char 'q' => { d with quit := true }
  | _ => d

def pressInView (d : Desk) : KeyCode → Desk
  | .tab => { d with view := d.view.next }
  | .backTab => { d with view := d.view.previous }
  | .down => d.down
  | .up => d.up
  | .enter => d.activate
  | .escape => d.cancelAnalysis.2
  | .char 'q' => { d with quit := true }
  | .char 'j' => d.down
  | .char 'k' => d.up
  | .char 'a' => d.startAnalysis
  | .char 's' => d.openSave
  | .char 'r' => d.refreshHistory
  | .char 'c' => d.compareSelection
  | .char 'x' => (d.exportReport .csv).2
  | .char 'J' => (d.exportReport .json).2
  | .char 'l' => d.toggleLanguage
  | .char 'd' => if d.view = .snippets then d.deleteSnippet else d
  | _ => d

/-- The desk after a key event. Only a key going down counts. -/
def press (d : Desk) (key : KeyEvent) : Desk :=
  if key.motion ≠ .press then d
  else if key.code = .char 'c' && key.control then { d with quit := true }
  else
    match d.dialog with
    | .save _ => d.pressInSave key.code
    | .info _ => d.pressInInfo key.code
    | .closed => d.pressInView key.code

end AuditDesk.Desk
