import AuditDesk.Json.Quoted
import AuditDesk.Json.Numeral

/-!
Passing over a value that nobody asks for. Open containers are kept on a stack of their own, so the
nesting limit does not apply here.
-/
namespace AuditDesk.Json

/-- A container that has been opened and not closed. -/
inductive Frame where
  | array
  | object
deriving DecidableEq

namespace Frame

def close : Frame → Char
  | .array => ']'
  | .object => '\x7d'

def endOfText : Frame → Cause
  | .array => .endOfList
  | .object => .endOfObject

def notClosed : Frame → Cause
  | .array => .expectedListEnd
  | .object => .expectedObjectEnd

end Frame

/-- Where in the text the next byte stands. -/
inductive SkipStage where
  | beforeValue
  | afterOpening
  | afterValue

namespace Reader

/-- The key and colon in front of an object's next value. -/
def skipKey : Reader Unit := do
  match ← lookPastBlanks with
  | some '"' => skipQuoted
  | some _ => failAhead .keyMustBeString
  | none => failAhead .endOfObject
  colon

/-- Reads on until the stack is empty. Every byte takes at most two stages. -/
def skipFrom : Nat → SkipStage → List Frame → Reader Unit
  | 0, _, _ => failAhead .endOfValue
  | fuel + 1, .beforeValue, stack => do
      match ← lookPastBlanks with
      | none => failAhead .endOfValue
      | some 'n' => do skip; literal "ull".toList; skipFrom fuel .afterValue stack
      | some 't' => do skip; literal "rue".toList; skipFrom fuel .afterValue stack
      | some 'f' => do skip; literal "alse".toList; skipFrom fuel .afterValue stack
      | some '-' => do skip; skipUnsigned; skipFrom fuel .afterValue stack
      | some '"' => do skipQuoted; skipFrom fuel .afterValue stack
      | some '[' => do skip; skipFrom fuel .afterOpening (.array :: stack)
      | some '\x7b' => do skip; skipFrom fuel .afterOpening (.object :: stack)
      | some c =>
          if c.isDigit then do skipUnsigned; skipFrom fuel .afterValue stack
          else failAhead .expectedValue
  | _ + 1, _, [] => yield ()
  | fuel + 1, stage, frame :: outer => do
      let item : Reader Unit := do
        if frame = .object then skipKey
        skipFrom fuel .beforeValue (frame :: outer)
      let c? ← lookPastBlanks
      if c? = some frame.close then
        skip
        skipFrom fuel .afterValue outer
      else
        match c?, stage with
        | none, _ => failAhead frame.endOfText
        | some ',', .afterValue => do skip; item
        | some _, .afterValue => failAhead frame.notClosed
        | some _, _ => item

def skipValue : Reader Unit := fun c =>
  skipFrom (2 * c.rest.length + 2) .beforeValue [] c

end Reader

end AuditDesk.Json
