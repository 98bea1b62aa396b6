/-!
Notices shown to the user for a while. The newest fifty are kept; a notice is live for five seconds.
-/
namespace AuditDesk

inductive NoticeLevel where
  | info
  | success
  | warning
  | error
deriving DecidableEq

def NoticeLevel.name : NoticeLevel → String
  | .info => "info"
  | .success => "success"
  | .warning => "warning"
  | .error => "error"

structure Notice where
  id : Nat
  level : NoticeLevel
  title : String
  message : String
  /-- Milliseconds on the clock of whoever shows it. -/
  created : Nat
deriving DecidableEq

/-- How long a notice is live, in milliseconds. -/
def Notice.lifetime : Nat := 5000

def Notice.isLive (n : Notice) (now : Nat) : Bool := now - n.created < Notice.lifetime

/-- The notices kept, oldest first, and the identifier of the next one. -/
structure Notices where
  kept : List Notice
  nextId : Nat
deriving DecidableEq

namespace Notices

def capacity : Nat := 50

def empty : Notices := ⟨[], 0⟩

/-- Adds a notice; when there are too many, the oldest are dropped. -/
def push (ns : Notices) (now : Nat) (level : NoticeLevel) (title message : String) : Notices :=
  let all := ns.kept ++ [⟨ns.nextId, level, title, message, now⟩]
  ⟨all.drop (all.length - capacity), ns.nextId + 1⟩

def dismiss (ns : Notices) (id : Nat) : Notices :=
  { ns with kept := ns.kept.filter (·.id ≠ id) }

def live (ns : Notices) (now : Nat) : List Notice := ns.kept.filter (·.isLive now)

/-- Forgets the notices that are no longer live. -/
def expire (ns : Notices) (now : Nat) : Notices := { ns with kept := ns.live now }

end Notices

end AuditDesk
