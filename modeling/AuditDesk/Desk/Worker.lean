import AuditDesk.Desk.Command
import AuditDesk.Service.Submission

/-!
Workers carry out analyses and fetch the history while the desk goes on. An analysis that has its
report fetches the history before it says anything, so that the report and the list that contains it
arrive together.
-/
namespace AuditDesk

open Service

/-- What a worker is at. -/
inductive Errand where
  | analysis (request : Request) (stage : Stage)
  /-- The report is there; the history is being fetched. -/
  | recording (report : Report)
  /-- The history alone is being fetched. -/
  | listing
  /-- Nothing is left but to queue these commands. -/
  | sending (commands : List Command)

namespace Errand

def listed : Except NetworkError (List Report) → Command
  | .ok reports => .historyLoaded reports
  | .error e => .historyFailed e.message

/-- The commands of an analysis that came to nothing. -/
def failure (e : AnalysisError) : List Command :=
  [ if e.isCancelled then .notify .info "Analysis Cancelled" e.message
    else .notify .error "Analysis Failed" e.message,
    .analysisFailed e.message ]

/-- The errand that an analysis in this stage is. -/
def ofStage (request : Request) : Stage → Errand
  | .ended (.ok report) => .recording report
  | .ended (.error e) => .sending (failure e)
  | stage => .analysis request stage

/-- The errand that an event leads to; nothing where the event cannot happen. -/
def step (policy : PollPolicy) : Errand → Event → Option Errand
  | .analysis request stage, event => (stage.step policy event).map (ofStage request)
  | .recording report, .reply (.history answer) =>
      some (.sending [.analysisFinished report, listed answer])
  | .listing, .reply (.history answer) => some (.sending [listed answer])
  | _, _ => none

/-- What brings the next event about. -/
def action? (policy : PollPolicy) : Errand → Option Stage.Action
  | .analysis request stage => stage.action? policy request
  | .recording _ | .listing => some (.call .history)
  | .sending _ => none

/-- Whether a cancellation is noticed now. -/
def heeds : Errand → Bool
  | .analysis _ stage => stage.heeds
  | _ => false

/-- An upper bound on the events until only commands are left. -/
def remaining (policy : PollPolicy) : Errand → Nat
  | .analysis _ stage => stage.remaining policy + 1
  | .recording _ | .listing => 1
  | .sending _ => 0

/-- Whether the errand is an analysis whose end has not been queued yet. -/
def isAnalysis : Errand → Bool
  | .analysis _ _ | .recording _ => true
  | .listing => false
  | .sending commands => commands.any Command.endsAnalysis

end Errand

structure Worker where
  id : Nat
  errand : Errand
  /-- The action that the errand needs has begun: the call is out, or the pause has started. -/
  begun : Bool
  /-- The user has cancelled the analysis. -/
  cancelled : Bool

namespace Worker

/-- The worker after an event. -/
def after (policy : PollPolicy) (w : Worker) (event : Event) : Option Worker :=
  (w.errand.step policy event).map fun errand => { w with errand := errand, begun := false }

/-- A cancellation has been noticed and will be the next event. -/
def stops (w : Worker) : Bool := w.cancelled && w.errand.heeds

end Worker

end AuditDesk
