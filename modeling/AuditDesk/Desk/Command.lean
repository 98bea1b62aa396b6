import AuditDesk.Notices
import AuditDesk.Report

/-!
What workers report back. A worker never touches the desk itself; it queues commands, which the desk
applies one after the other.
-/
namespace AuditDesk

inductive Command where
  | analysisFinished (report : Report)
  | analysisFailed (message : String)
  | historyLoaded (reports : List Report)
  | historyFailed (message : String)
  | notify (level : NoticeLevel) (title message : String)
deriving DecidableEq

namespace Command

/-- Whether the command ends an analysis. -/
def endsAnalysis : Command → Bool
  | .analysisFinished _ | .analysisFailed _ => true
  | _ => false

/-- Whether the command answers a question for the history. -/
def answersHistory : Command → Bool
  | .historyLoaded _ | .historyFailed _ => true
  | _ => false

end Command

end AuditDesk
