import AuditDesk.Service.Failure
import AuditDesk.Service.Message

/-!
Calls to the analysis service and the replies to them. Every call is a single exchange.
-/
namespace AuditDesk.Service

inductive Call where
  /-- A source is handed in. -/
  | analyze (request : Request)
  /-- How far has the task come? -/
  | status (task : String)
  /-- Which analyses are finished? -/
  | history
  /-- The service is to write a file of the report. -/
  | render (format : ExportFormat) (report : Report)
  /-- Nobody will ask for the task any more. -/
  | release (task : String)
deriving DecidableEq

/-- The reply to a call of each kind. -/
inductive Reply where
  | analyzed (answer : Except NetworkError AnalyzeAnswer)
  | status (answer : Except NetworkError TaskStatus)
  | history (answer : Except NetworkError (List Report))
  | rendered (answer : Except NetworkError (List UInt8))
  | released

/-- The reply that a failed exchange gives to a call. A task is released whatever happens. -/
def Call.refused (call : Call) (e : NetworkError) : Reply :=
  match call with
  | .analyze _ => .analyzed (.error e)
  | .status _ => .status (.error e)
  | .history => .history (.error e)
  | .render _ _ => .rendered (.error e)
  | .release _ => .released

end AuditDesk.Service
