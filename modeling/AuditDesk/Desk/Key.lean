/-!
Keys and what is done with them.
-/
namespace AuditDesk

inductive KeyCode where
  | char (c : Char)
  | enter
  | escape
  | tab
  | backTab
  | backspace
  | up
  | down
  | left
  | right
  | delete
  /-- A function key. -/
  | function (number : Nat)
deriving DecidableEq

/-- A key may report that it goes down, that it is held, or that it comes up. -/
inductive KeyMotion where
  | press
  | hold
  | release
deriving DecidableEq

structure KeyEvent where
  code : KeyCode
  control : Bool
  motion : KeyMotion
deriving DecidableEq

namespace KeyEvent

def ofCode (code : KeyCode) : KeyEvent := ⟨code, false, .press⟩

def ofChar (c : Char) : KeyEvent := ofCode (.char c)

end KeyEvent

end AuditDesk
