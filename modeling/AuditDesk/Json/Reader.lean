import AuditDesk.Json.Failure

/-!
Reading from the bytes of a text, one step after another. A reader either yields a value and the place
where the next reader goes on, or fails; it also says how far it had read when it failed, because a
failure without a position gets the position of that place.
-/
namespace AuditDesk.Json

/-- The unread bytes and their position in the text. -/
structure Cursor where
  rest : List UInt8
  position : Position

namespace Cursor

def start (bytes : List UInt8) : Cursor := ⟨bytes, .start⟩

/-- The cursor behind the next byte, or the same one at the end. -/
def advance (c : Cursor) : Cursor :=
  match c.rest with
  | [] => c
  | b :: rest => ⟨rest, c.position.after b⟩

/-- The cursor that many bytes further on. -/
def forward : Nat → Cursor → Cursor
  | 0, c => c
  | n + 1, c => forward n c.advance

/-- The next byte, seen as a character; only its ASCII meaning is used. -/
def peek? (c : Cursor) : Option Char :=
  c.rest.head?.map Char.ofUInt8

def isJsonBlank (b : UInt8) : Bool :=
  b == 0x20 || b == 0x0A || b == 0x09 || b == 0x0D

private def skipFrom (keep : UInt8 → Bool) : List UInt8 → Position → Cursor
  | [], p => ⟨[], p⟩
  | b :: rest, p => if keep b then skipFrom keep rest (p.after b) else ⟨b :: rest, p⟩

/-- The cursor behind the longest run of bytes satisfying `keep`. -/
def skipWhile (keep : UInt8 → Bool) (c : Cursor) : Cursor :=
  skipFrom keep c.rest c.position

theorem skipWhile_of_not {keep : UInt8 → Bool} {b : UInt8} (rest : List UInt8) (p : Position)
    (h : keep b = false) : skipWhile keep ⟨b :: rest, p⟩ = ⟨b :: rest, p⟩ := by
  simp [skipWhile, skipFrom, h]

theorem skipWhile_of_keep {keep : UInt8 → Bool} {b : UInt8} (rest : List UInt8) (p : Position)
    (h : keep b = true) : skipWhile keep ⟨b :: rest, p⟩ = skipWhile keep ⟨rest, p.after b⟩ := by
  simp [skipWhile, skipFrom, h]

end Cursor

/-- What a reader comes to. -/
inductive Reading (α : Type) where
  | done (value : α) (next : Cursor)
  | failed (failure : Failure) (next : Cursor)

/-- The cursor a reading leaves behind, whatever it came to. -/
def Reading.next {α : Type} : Reading α → Cursor
  | .done _ next => next
  | .failed _ next => next

def Reader (α : Type) : Type := Cursor → Reading α

namespace Reader

variable {α β σ : Type}

@[inline]
def yield (a : α) : Reader α := fun c => .done a c

@[inline]
def andThen (r : Reader α) (f : α → Reader β) : Reader β := fun c =>
  match r c with
  | .done a next => f a next
  | .failed failure next => .failed failure next

instance : Monad Reader where
  pure := yield
  bind := andThen

/-- Fails at the bytes read so far. -/
def failHere (cause : Cause) : Reader α := fun c => .failed ⟨cause, some c.position⟩ c

/-- Fails at the byte that is looked at, which counts as read. -/
def failAhead (cause : Cause) : Reader α := fun c =>
  .failed ⟨cause, some c.advance.position⟩ c

/-- Fails because of a value; an enclosing container adds the position. -/
def failUnplaced (cause : Cause) : Reader α := fun c => .failed ⟨cause, none⟩ c

/-- Gives a failure without a position the position reached. -/
def placed (r : Reader α) : Reader α := fun c =>
  match r c with
  | .failed ⟨cause, none⟩ next => .failed ⟨cause, some next.position⟩ next
  | reading => reading

/-- Runs `close` after `body` even when `body` failed; the failure of `body` is the one reported. -/
def closing (body : Reader α) (close : Reader Unit) : Reader α := fun c =>
  match body c with
  | .done a next =>
      match close next with
      | .done _ last => .done a last
      | .failed failure last => .failed failure last
  | .failed failure next => .failed failure (close next).next

def look : Reader (Option Char) := fun c => .done c.peek? c

def skip : Reader Unit := fun c => .done () c.advance

/-- The next character after white space, which stays unread. -/
def lookPastBlanks : Reader (Option Char) := fun c =>
  let c := c.skipWhile Cursor.isJsonBlank
  .done c.peek? c

/-- Reads the remaining letters of a literal name such as `null`. -/
def literal : List Char → Reader Unit
  | [] => yield ()
  | wanted :: more => do
      match ← look with
      | none => failHere .endOfValue
      | some c =>
          skip
          if c = wanted then literal more else failHere .expectedIdent

/-- Opens one more container, unless the nesting limit is used up. The remaining depth is passed on. -/
def nested (depth : Nat) (inside : Nat → Reader α) : Reader α :=
  match depth with
  | 0 => failAhead .nestingLimit
  | d + 1 => inside d

/-- The number of containers that may be open at once. -/
def nestingLimit : Nat := 127

/-- Moves to the next item of an array; false at its end. -/
def nextItem (first : Bool) : Reader Bool := do
  match ← lookPastBlanks with
  | some ']' => yield false
  | none => failAhead .endOfList
  | some c =>
      if first then yield true
      else if c = ',' then
        skip
        match ← lookPastBlanks with
        | some ']' => failAhead .trailingComma
        | none => failAhead .endOfValue
        | some _ => yield true
      else failAhead .expectedListEnd

/-- Moves to the next key of an object; false at its end. -/
def nextKey (first : Bool) : Reader Bool := do
  let keyAt : Option Char → Reader Bool := fun
    | some '"' => yield true
    | some '\x7d' => failAhead .trailingComma
    | none => failAhead .endOfValue
    | some _ => failAhead .keyMustBeString
  match ← lookPastBlanks with
  | some '\x7d' => yield false
  | none => failAhead .endOfObject
  | some c =>
      if first then keyAt (some c)
      else if c = ',' then
        skip
        keyAt (← lookPastBlanks)
      else failAhead .expectedObjectEnd

def colon : Reader Unit := do
  match ← lookPastBlanks with
  | some ':' => skip
  | none => failAhead .endOfObject
  | some _ => failAhead .expectedColon

def closeArray : Reader Unit := do
  match ← lookPastBlanks with
  | some ']' => skip
  | some ',' => do
      skip
      match ← lookPastBlanks with
      | some ']' => failAhead .trailingComma
      | _ => failAhead .trailingCharacters
  | some _ => failAhead .trailingCharacters
  | none => failAhead .endOfList

def closeObject : Reader Unit := do
  match ← lookPastBlanks with
  | some '\x7d' => skip
  | some ',' => failAhead .trailingComma
  | some _ => failAhead .trailingCharacters
  | none => failAhead .endOfObject

/-- Folds `item` over the items of an array behind its opening bracket. At most `fuel` items are
read; every item takes a byte, so the number of unread bytes is enough. -/
def itemsFrom (item : σ → Reader σ) : Nat → Bool → σ → Reader σ
  | 0, _, _ => failAhead .endOfList
  | fuel + 1, first, state => do
      if ← nextItem first then
        itemsFrom item fuel false (← item state)
      else yield state

def items (item : σ → Reader σ) (state : σ) : Reader σ := fun c =>
  itemsFrom item (c.rest.length + 1) true state c

/-- Folds `member` over the keys of an object behind its opening brace. `member` reads the colon and
the value, so that it can refuse a key before either. -/
def membersFrom (key : Reader String) (member : String → σ → Reader σ) :
    Nat → Bool → σ → Reader σ
  | 0, _, _ => failAhead .endOfObject
  | fuel + 1, first, state => do
      if ← nextKey first then
        let k ← key
        membersFrom key member fuel false (← member k state)
      else yield state

def members (key : Reader String) (member : String → σ → Reader σ) (state : σ) : Reader σ := fun c =>
  membersFrom key member (c.rest.length + 1) true state c

/-- Reads a whole text: nothing but white space may follow. -/
def whole (r : Reader α) (text : List UInt8) : Except Failure α :=
  let all : Reader α := do
    let a ← r
    match ← lookPastBlanks with
    | none => yield a
    | some _ => failAhead .trailingCharacters
  match all (.start text) with
  | .done a _ => .ok a
  | .failed failure _ => .error failure

end Reader

end AuditDesk.Json
