import AuditDesk.Desk.Press
import AuditDesk.Setup

/-!
A desk at work: its workers, the service they talk to, and the time that passes. Workers that can go on
do so one after the other, each as far as it can without waiting. When none can, time moves on to the
next moment at which something is due. Time and workers stand still while the user acts.
-/
namespace AuditDesk

open Service

/-- The action that a worker waits for. -/
structure Pending where
  worker : Nat
  /-- The call that is out; a pause without one. -/
  ticket : Option Ticket
  /-- When it is over, in milliseconds; nothing when it never is. -/
  due : Option Nat

structure Session where
  desk : Desk
  backend : Backend
  clock : Clock
  /-- The workers that can go on, in the order in which they became able to. -/
  ready : List Nat
  /-- What the other workers wait for, in the order in which they began to. -/
  pending : List Pending

namespace Session

/-- A session at the start, with an empty desk. -/
def start (setup : Setup) (files : FileTree) (clock : Clock) : Session where
  desk := .start setup.config.policy setup.config.exportDir files setup.storage setup.store
    setup.warnings
  backend := setup.backend
  clock := clock
  ready := []
  pending := []

section User

/-- Puts workers at the end of those that can go on, unless they are there. -/
def wake (s : Session) (ids : List Nat) : Session :=
  { s with ready := s.ready ++ ids.filter fun id => !s.ready.contains id }

/-- The user acts. New workers can go on, and so can one that has been cancelled. -/
def act (s : Session) (action : Desk → Desk) : Session :=
  let desk := action s.desk
  let fresh := (desk.workers.filter fun w => s.desk.nextWorker ≤ w.id).map Worker.id
  let stopped := (desk.workers.filter fun w =>
    w.stops && !(s.desk.worker? w.id).any Worker.stops).map Worker.id
  { s with desk := desk }.wake (fresh ++ stopped)

end User

section Workers

def pendingOf? (s : Session) (id : Nat) : Option Pending := s.pending.find? fun p => p.worker = id

def forget (s : Session) (id : Nat) : Session :=
  { s with pending := s.pending.filter fun p => p.worker ≠ id }

/-- Something happens to a worker, which then waits for nothing any more. -/
def happen (s : Session) (id : Nat) (event : Event) : Session :=
  { s.forget id with desk := s.desk.happen id event }

/-- A worker begins its next action. -/
def commence (s : Session) (id : Nat) (action : Stage.Action) : Session :=
  let desk := s.desk.commence id
  match action with
  | .sleep milliseconds =>
      { s with
        desk := desk
        pending := s.pending ++ [⟨id, none, some (s.clock.elapsed + milliseconds)⟩] }
  | .call call =>
      let (ticket, backend) := s.backend.take call
      { s with
        desk := desk
        backend := backend
        pending := s.pending ++ [⟨id, some ticket, ticket.delay.map (s.clock.elapsed + ·)⟩] }

/-- Ends what a worker waits for, if it is due. -/
def complete? (s : Session) (id : Nat) : Option Session := do
  let p ← s.pendingOf? id
  let due ← p.due
  if due ≤ s.clock.elapsed then
    match p.ticket with
    | none => some (s.happen id .elapsed)
    | some ticket =>
        let (reply, backend) := s.backend.settle s.clock ticket
        some ({ s with backend := backend }.happen id (.reply reply))
  else none

/-- Lets a worker do one thing; nothing when it has to wait or is gone. A cancellation comes first. -/
def advance? (s : Session) (id : Nat) : Option Session := do
  let w ← s.desk.worker? id
  if w.stops then some (s.happen id .cancelled)
  else
    match w.errand with
    | .sending _ => some { s with desk := s.desk.sendAll id }
    | errand =>
        if w.begun then s.complete? id
        else (errand.action? s.desk.policy).map (s.commence id)

/-- Lets a worker go on for at most `steps` things. -/
def goOn (id : Nat) : Nat → Session → Session
  | 0, s => s
  | steps + 1, s =>
      match s.advance? id with
      | some s => goOn id steps s
      | none => s

/-- Enough for a worker to come to its end: two steps for each event, and one to report. -/
def stepsLeft (s : Session) (id : Nat) : Nat :=
  ((s.desk.worker? id).map fun w => 2 * w.errand.remaining s.desk.policy + 2).getD 0

/-- Lets all workers that can go on do so. -/
def runReady (s : Session) : Session :=
  s.ready.foldl (fun s id => goOn id (s.stepsLeft id) s) { s with ready := [] }

end Workers

section Time

/-- The next moment at which something is due. -/
def nextDue? (s : Session) : Option Nat :=
  (s.pending.filterMap Pending.due).foldl (fun soonest due =>
    some (match soonest with
      | some t => min t due
      | none => due)) none

/-- Moves the time on; the workers whose wait is over by then can go on. -/
def passTo (s : Session) (time : Nat) : Session :=
  let due := s.pending.filter fun p => p.due.any (· ≤ time)
  { s with clock := { s.clock with elapsed := max s.clock.elapsed time } }.wake
    (due.map Pending.worker)

/-- Lets workers and time go on until a command is queued, if `untilCommand`, or until a moment. What
is due at that very moment is not done any more. At most `moments` others are passed on the way. -/
def runUntil (untilCommand : Bool) (time : Nat) : Nat → Session → Session
  | 0, s => s.runReady.passTo time
  | moments + 1, s =>
      let s := s.runReady
      if untilCommand && !s.desk.queue.isEmpty then s
      else
        match s.nextDue? with
        | some due => if due < time then runUntil untilCommand time moments (s.passTo due)
            else s.passTo time
        | none => s.passTo time

/-- More than the moments at which something can become due. -/
def momentsLeft (s : Session) : Nat :=
  s.desk.workers.foldl (fun n w => n + w.errand.remaining s.desk.policy + 1) 1

/-- Lets workers and time go on for so many milliseconds. -/
def wait (s : Session) (milliseconds : Nat) : Session :=
  s.runUntil false (s.clock.elapsed + milliseconds) s.momentsLeft

/-- How long the desk waits for a command, in milliseconds. -/
def patience : Nat := 1000000

/-- Waits for a command and applies it; none may come. One that is queued already is taken at once. -/
def next (s : Session) : Option Command × Session :=
  let s :=
    if s.desk.queue.isEmpty then s.runUntil true (s.clock.elapsed + patience) s.momentsLeft else s
  let (command, desk) := s.desk.deliver
  (command, { s with desk := desk })

end Time

end Session

end AuditDesk
