import AuditDesk.Service.Backend
import AuditDesk.Service.Submission

/-!
A client that carries out one call or analysis after the other and waits for each. Time passes only
while it waits. It may hold a token by which the user cancels: before the start, during one of the
pauses between two questions, or while the service is at a call.
-/
namespace AuditDesk.Service

/-- The user's means to cancel. -/
structure CancelToken where
  fired : Bool
  /-- The pause during which it fires, counted from one. -/
  firesInPause : Option Nat
deriving DecidableEq

structure Client where
  backend : Backend
  policy : PollPolicy
  clock : Clock
  token : Option CancelToken
  /-- The pauses so far. -/
  pauses : Nat

namespace Client

def ofBackend (backend : Backend) (policy : PollPolicy) (clock : Clock) : Client :=
  ⟨backend, policy, clock, none, 0⟩

def isCancelled (c : Client) : Bool := c.token.any CancelToken.fired

def fire (c : Client) : Client :=
  { c with token := c.token.map fun token => { token with fired := true } }

/-- Makes a call and waits for the reply, which may never come. -/
def call (c : Client) (call : Call) : Option Reply × Client :=
  let (ticket, backend) := c.backend.take call
  let c := { c with backend := backend }
  let c := if ticket.cancels then c.fire else c
  match ticket.delay with
  | none => (none, c)
  | some delay =>
      let clock := c.clock.after delay
      let (reply, backend) := c.backend.settle clock ticket
      (some reply, { c with backend := backend, clock := clock })

/-- Lets a pause begin; when the token fires meanwhile, the pause does not end. -/
def pause (c : Client) (milliseconds : Nat) : Event × Client :=
  let c := { c with pauses := c.pauses + 1 }
  match c.token with
  | some token =>
      if token.firesInPause = some c.pauses then (.cancelled, c.fire)
      else (.elapsed, { c with clock := c.clock.after milliseconds })
  | none => (.elapsed, { c with clock := c.clock.after milliseconds })

/-- The event that ends a stage; nothing when the stage lasts for ever. A reply that has arrived goes
before a cancellation that comes with it. -/
def event (c : Client) (request : Request) (stage : Stage) : Option Event × Client :=
  if stage.heeds && c.isCancelled then (some .cancelled, c)
  else
    match stage.action? c.policy request with
    | none => (none, c)
    | some (.sleep milliseconds) =>
        let (event, c) := c.pause milliseconds
        (some event, c)
    | some (.call call) =>
        let (reply, c) := c.call call
        match reply with
        | some reply => (some (.reply reply), c)
        | none => (if stage.heeds && c.isCancelled then some .cancelled else none, c)

/-- Goes on from a stage to the end, which is at most `steps` events away. -/
def runFrom (request : Request) (steps : Nat) (stage : Stage) (c : Client) : Stage × Client :=
  Stage.carryOn c.policy (fun stage c => c.event request stage) steps stage c

/-- Hands in a source and waits for the outcome; nothing when it never comes. -/
def submit (c : Client) (request : Request) : Option (Except AnalysisError Report) × Client :=
  let (stage, c) := runFrom request (Stage.asking.remaining c.policy) .asking c
  match stage with
  | .ended outcome => (some outcome, c)
  | _ => (none, c)

/-- Asks for the finished analyses. -/
def history (c : Client) : Option (Except NetworkError (List Report)) × Client :=
  match c.call .history with
  | (some (.history answer), c) => (some answer, c)
  | (_, c) => (none, c)

/-- Lets the service write a file of a report. -/
def render (c : Client) (format : ExportFormat) (report : Report) :
    Option (Except NetworkError (List UInt8)) × Client :=
  match c.call (.render format report) with
  | (some (.rendered answer), c) => (some answer, c)
  | (_, c) => (none, c)

end Client

end AuditDesk.Service
