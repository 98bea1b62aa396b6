import AuditDesk.Guidance

/-!
Dialogs, at most one of which is open: guidance on a finding, or the prompt for a snippet's name.
-/
namespace AuditDesk

inductive Dialog where
  | closed
  | info (finding : String)
  | save (buffer : String)
deriving DecidableEq

namespace Dialog

def isOpen : Dialog → Bool
  | .closed => false
  | _ => true

/-- The name typed so far, while the prompt is open. -/
def buffer? : Dialog → Option String
  | .save buffer => some buffer
  | _ => none

/-- The finding on which guidance is shown. -/
def finding? : Dialog → Option String
  | .info finding => some finding
  | _ => none

/-- Appends a typed character to the name; other dialogs take no text. -/
def typed (c : Char) : Dialog → Dialog
  | .save buffer => .save (buffer.push c)
  | d => d

/-- Removes the last character of the name. -/
def backspace : Dialog → Dialog
  | .save buffer => .save (String.ofList buffer.toList.dropLast)
  | d => d

end Dialog

end AuditDesk
