import AuditDesk.Report

/-!
How a conversation with the analysis service fails: a single exchange (`NetworkError`), the watch over
a task (`PollError`), or a whole analysis (`AnalysisError`). Nothing is tried again after a failure.
-/
namespace AuditDesk.Service

/-- A single request and its response failed. -/
inductive NetworkError where
  /-- The request could not be made, sent or answered. -/
  | request (url cause : String)
  /-- The service answered with a status other than success. -/
  | status (url : String) (code : Nat) (body : String)
  /-- The body of a response is not what the request asks for. -/
  | decode (url reason : String)
  | unavailable (reason : String)
deriving DecidableEq

namespace NetworkError

def message : NetworkError → String
  | .request url cause => "Request to " ++ url ++ " failed: " ++ cause
  | .status url code body => url ++ " returned HTTP " ++ toString code ++ ": " ++ body
  | .decode url reason => "Could not decode response from " ++ url ++ ": " ++ reason
  | .unavailable reason => "Service unavailable: " ++ reason

/-- The messages of the error and of what is behind it, outermost first. -/
def chain (e : NetworkError) : List String :=
  match e with
  | .request _ cause => [e.message, cause]
  | _ => [e.message]

end NetworkError

/-- A task was accepted, but no report came of it. -/
inductive PollError where
  | transport (task : String) (attempt : Nat) (e : NetworkError)
  /-- The service gave up on the task. -/
  | taskFailed (task reason : String)
  /-- The task was finished, but not with a report. -/
  | malformedReport (task reason : String)
  | exhausted (task : String) (attempts : Nat)
  | cancelled (task : String)
deriving DecidableEq

namespace PollError

def task : PollError → String
  | .transport task _ _ => task
  | .taskFailed task _ => task
  | .malformedReport task _ => task
  | .exhausted task _ => task
  | .cancelled task => task

def message : PollError → String
  | .transport task attempt e =>
      "Polling task " ++ task ++ " failed on attempt " ++ toString attempt ++ ": " ++ e.message
  | .taskFailed task reason => "Task " ++ task ++ " failed on the service: " ++ reason
  | .malformedReport task reason =>
      "Task " ++ task ++ " finished without a usable result: " ++ reason
  | .exhausted task attempts =>
      "Task " ++ task ++ " still pending after " ++ toString attempts ++ " attempts"
  | .cancelled task => "Polling task " ++ task ++ " was cancelled"

def chain (e : PollError) : List String :=
  match e with
  | .transport _ _ cause => e.message :: cause.chain
  | _ => [e.message]

end PollError

/-- An analysis ended without a report. -/
inductive AnalysisError where
  | network (e : NetworkError)
  | poll (e : PollError)
  /-- It was cancelled while the service had not answered yet. -/
  | cancelled
deriving DecidableEq

namespace AnalysisError

def message : AnalysisError → String
  | .network e => e.message
  | .poll e => e.message
  | .cancelled => "Analysis was cancelled before the service answered"

/-- The messages of the error and of what is behind it, outermost first. -/
def chain : AnalysisError → List String
  | .network e => e.chain
  | .poll e => e.chain
  | .cancelled => [AnalysisError.cancelled.message]

/-- Whether the analysis ended because it was cancelled, at whatever stage. -/
def isCancelled : AnalysisError → Bool
  | .cancelled => true
  | .poll (.cancelled _) => true
  | _ => false

def task? : AnalysisError → Option String
  | .poll e => some e.task
  | _ => none

end AnalysisError

end AuditDesk.Service
