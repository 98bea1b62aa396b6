import AuditDesk.Service.Call
import AuditDesk.Wire

/-!
A rehearsed service: the answer to every call is laid down beforehand, in one queue for each kind of
call. When a queue is used up, the service is out of order for what it would have to compute, tasks
stay pending and there is no history.
-/
namespace AuditDesk.Service

/-- What a rehearsed service does with a call. -/
inductive Rehearsed where
  /-- It never answers. -/
  | hang
  | refuse (e : NetworkError)
  /-- It answers with a body, which may or may not be what the call asks for. -/
  | body (text : String)

namespace Script

structure Entry where
  /-- Milliseconds before it does so. -/
  delay : Nat
  /-- The user cancels while the service is at it. -/
  cancels : Bool
  act : Rehearsed

end Script

structure Script where
  analyze : List Script.Entry
  statuses : List Script.Entry
  history : List Script.Entry
  renders : List Script.Entry
  /-- The calls so far, the newest first. -/
  calls : List Call

namespace Script

/-- The name of the queue that answers a kind of call. -/
def queueName : Call → String
  | .analyze _ => "analyze"
  | .status _ => "statuses"
  | .history => "history"
  | .render _ _ => "export"
  | .release _ => "abandon"

/-- What happens when the queue is used up. -/
def exhausted : Call → Rehearsed
  | .status _ => .body (Wire.ofTaskStatus ⟨"PENDING", none⟩).compact
  | .history => .body (Wire.ofReports []).compact
  | _ => .refuse (.unavailable "script ended")

private def first (call : Call) (queue : List Entry) : Entry × List Entry :=
  match queue with
  | [] => (⟨0, false, exhausted call⟩, [])
  | entry :: rest => (entry, rest)

/-- Notes a call and takes what is laid down for it from its queue. -/
def take (s : Script) (call : Call) : Entry × Script :=
  let s := { s with calls := call :: s.calls }
  match call with
  | .analyze _ =>
      let (entry, rest) := first call s.analyze
      (entry, { s with analyze := rest })
  | .status _ =>
      let (entry, rest) := first call s.statuses
      (entry, { s with statuses := rest })
  | .history =>
      let (entry, rest) := first call s.history
      (entry, { s with history := rest })
  | .render _ _ =>
      let (entry, rest) := first call s.renders
      (entry, { s with renders := rest })
  | .release _ => (⟨0, false, exhausted call⟩, s)

private def decoded {α : Type} (call : Call) (d : Json.Decoder α) (text : String) :
    Except NetworkError α :=
  (d.ofText text).mapError fun failure => .decode ("scripted://" ++ queueName call) failure.message

/-- The reply that a body makes. -/
def ofBody (call : Call) (text : String) : Reply :=
  match call with
  | .analyze _ => .analyzed (decoded call Wire.analyzeAnswer text)
  | .status _ => .status (decoded call Wire.taskStatus text)
  | .history => .history (decoded call Wire.reports text)
  | .render _ _ => .rendered (.ok (Text.bytes text))
  | .release _ => .released

/-- The reply that an entry comes to; a service that hangs makes none. -/
def Entry.reply? (entry : Entry) (call : Call) : Option Reply :=
  match entry.act with
  | .hang => none
  | .refuse e => some (call.refused e)
  | .body text => some (ofBody call text)

end Script

end AuditDesk.Service
