import AuditDesk.Service.Remote
import AuditDesk.Service.Script
import AuditDesk.Service.Simulation
import AuditDesk.Time.Clock

/-!
The services that can stand behind the client. Every call is first taken on and, when its time has
come, settled with a reply; other calls may come in between.
-/
namespace AuditDesk.Service

inductive Backend where
  | scripted (script : Script)
  | simulated (simulation : Simulation)
  /-- The network answers a request or fails to. -/
  | remote (remote : Remote) (network : HttpRequest → Option HttpResponse)

/-- A call that has been taken on. -/
structure Ticket where
  call : Call
  /-- Milliseconds until the reply; nothing when there will be none. -/
  delay : Option Nat
  /-- The reply, unless it depends on what the service knows when it is due. -/
  prepared : Option Reply
  /-- The user cancels meanwhile. -/
  cancels : Bool

namespace Backend

def take (b : Backend) (call : Call) : Ticket × Backend :=
  match b with
  | .scripted s =>
      let (entry, s) := s.take call
      let reply := entry.reply? call
      (⟨call, reply.map fun _ => entry.delay, reply, entry.cancels⟩, .scripted s)
  | .simulated s =>
      let delay := match call with
        | .analyze _ => s.delay
        | _ => 0
      (⟨call, some delay, none, false⟩, b)
  | .remote r network => (⟨call, some 0, some (r.reply network call).1, false⟩, b)

/-- The reply to a call whose time has come. -/
def settle (b : Backend) (clock : Clock) (ticket : Ticket) : Reply × Backend :=
  match ticket.prepared, b with
  | some reply, b => (reply, b)
  | none, .simulated s =>
      let (reply, s) := s.reply Simulation.identifier clock.now ticket.call
      (reply, .simulated s)
  | none, b => (ticket.call.refused (.unavailable "no reply"), b)

/-- The calls of a rehearsed service that have not been looked at yet, oldest first. -/
def calls? : Backend → Option (List Call)
  | .scripted s => some s.calls.reverse
  | _ => none

/-- Forgets the calls noted so far. -/
def forgetCalls : Backend → Backend
  | .scripted s => .scripted { s with calls := [] }
  | b => b

end Backend

end AuditDesk.Service
