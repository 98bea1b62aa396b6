import AuditDesk.Json.Value
import AuditDesk.Language
import AuditDesk.Report

/-!
What the analysis service is asked and what it answers.
-/
namespace AuditDesk.Service

/-- The source to be analysed. -/
structure Request where
  code : String
  language : Language
deriving DecidableEq

/-- The service answers a request with a task to be watched, or at once with the report. -/
inductive AnalyzeAnswer where
  | task (id : String)
  | completed (report : Report)
deriving DecidableEq

/-- How far a task has come. The payload of a finished task should be a report. -/
structure TaskStatus where
  state : String
  payload : Option Json.Value

inductive TaskPhase where
  | pending
  | done
  | failed
deriving DecidableEq

namespace TaskPhase

def name : TaskPhase → String
  | .pending => "Pending"
  | .done => "Done"
  | .failed => "Error"

/-- Only `PENDING` keeps a task alive, and four words report a failure; any other state is taken for
the end of a successful task. Case and surrounding white space do not matter. -/
def ofState (state : String) : TaskPhase :=
  match Text.asciiUpper (Text.trim state) with
  | "PENDING" => .pending
  | "FAILURE" | "FAILED" | "ERROR" | "REVOKED" => .failed
  | _ => .done

def isTerminal (phase : TaskPhase) : Bool := phase != .pending

end TaskPhase

def TaskStatus.phase (status : TaskStatus) : TaskPhase := .ofState status.state

end AuditDesk.Service
