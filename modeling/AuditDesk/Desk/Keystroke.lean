import AuditDesk.Desk.Key

/-!
The characters that a terminal sends for keys. Some keys send one control character, others a sequence
that begins with an escape. A sequence is looked at again with every character that is added to it,
until it is complete; what is complete and not known is passed over.
-/
namespace AuditDesk.Keystroke

/-- The key for a single character. Most control characters stand for a letter or digit together with
the control key. -/
def ofChar (c : Char) : KeyEvent :=
  let controlled (base first : Nat) : KeyEvent :=
    ⟨.char (Char.ofNat (c.toNat - first + base)), true, .press⟩
  if c = '\r' then .ofCode .enter
  else if c = '\t' then .ofCode .tab
  else if c = '\x7f' then .ofCode .backspace
  else if c = '\x1b' then .ofCode .escape
  else if c = '\x00' then ⟨.char ' ', true, .press⟩
  else if c.toNat ≤ 26 then controlled 'a'.toNat 1
  else if c.toNat < 32 then controlled '4'.toNat 28
  else .ofChar c

/-- What is made of a sequence of characters. -/
inductive Verdict where
  /-- More characters belong to it. -/
  | unfinished
  | complete (key : Option KeyEvent)

section Numbers

/-- A number of at most `limit`, perhaps behind a plus sign. -/
def numeral? (limit : Nat) (cs : List Char) : Option Nat :=
  let digits := if cs.head? = some '+' then cs.drop 1 else cs
  let n := digits.foldl (fun n c => n * 10 + (c.toNat - 48)) 0
  if digits.isEmpty || !digits.all Char.isDigit || limit < n then none else some n

/-- The keys held together with another one. -/
structure Held where
  shift : Bool
  control : Bool
  motion : KeyMotion

def Held.none : Held := ⟨false, false, .press⟩

/-- The keys held, as a number that is one more than their sum. -/
def Held.ofMask (mask : Nat) (motion : KeyMotion) : Held :=
  ⟨(mask - 1).testBit 0, (mask - 1).testBit 2, motion⟩

/-- The keys held and, behind a colon, whether the key goes down, is held or comes up. -/
def Held.ofField? (field : List Char) : Option Held := do
  let parts := field.splitOn ':'
  let mask ← numeral? 255 (← parts[0]?)
  let motion := match parts[1]?.bind (numeral? 255) with
    | some 2 => .hold
    | some 3 => .release
    | _ => .press
  return .ofMask mask motion

end Numbers

/-- The keys that send one letter behind the opening of a sequence. -/
def ofLetter? : Char → Option KeyCode
  | 'A' => some .up
  | 'B' => some .down
  | 'C' => some .right
  | 'D' => some .left
  | 'P' => some (.function 1)
  | 'Q' => some (.function 2)
  | 'R' => some (.function 3)
  | 'S' => some (.function 4)
  | _ => none

/-- A letter behind numbers, the second of which tells what is held. -/
def ofNumberedLetter? (numbers : List Char) (letter : Char) : Option KeyEvent := do
  let held ←
    match (numbers.splitOn ';')[1]?.bind Held.ofField? with
    | some held => pure held
    | none => do
        let last ← numbers.getLast?
        if last.isDigit then pure (.ofMask (last.toNat - 48) .press) else none
  return ⟨← ofLetter? letter, held.control, held.motion⟩

/-- The keys of a number pad have numbers of their own. -/
def ofPad? (number : Nat) : Option KeyCode :=
  if 57399 ≤ number && number ≤ 57408 then some (.char (Char.ofNat (number - 57399 + 48)))
  else
    [(57409, KeyCode.char '.'), (57410, .char '/'), (57411, .char '*'), (57412, .char '-'),
      (57413, .char '+'), (57414, .enter), (57415, .char '='), (57416, .char ','), (57417, .left),
      (57418, .right), (57419, .up), (57420, .down), (57426, .delete)].lookup number

/-- The numbers of further keys, all without a meaning here. -/
def isFurther (number : Nat) : Bool :=
  (57358 ≤ number && number ≤ 57363) || (57376 ≤ number && number ≤ 57398) ||
    (57421 ≤ number && number ≤ 57454)

/-- The character with a number, unless the number belongs to none. -/
def charOfNumber? (number : Nat) : Option Char :=
  if number.isValidChar then some (Char.ofNat number) else none

/-- The key for the character with a number. -/
def ofCharNumber? (number : Nat) (shift : Bool) : Option KeyCode := do
  match ← charOfNumber? number with
  | '\x1b' => some .escape
  | '\r' => some .enter
  | '\t' => some (if shift then .backTab else .tab)
  | '\x7f' => some .backspace
  | c => some (.char c)

/-- A key that is given by its number, followed by the number of what it is together with the shift key;
then comes what is held. -/
def ofNumbers? (numbers : List Char) : Option KeyEvent := do
  let fields := numbers.splitOn ';'
  let names := (← fields[0]?).splitOn ':'
  let number ← numeral? 4294967295 (← names[0]?)
  let held := (fields[1]?.bind Held.ofField?).getD .none
  let code ← (ofPad? number).or
    (if isFurther number then some (.function number) else ofCharNumber? number held.shift)
  let shifted := if held.shift then names[1]?.bind (numeral? 4294967295) |>.bind charOfNumber? else none
  return ⟨(shifted.map KeyCode.char).getD code, held.control, held.motion⟩

/-- Judges what follows an escape and a bracket. -/
def judgeBracket (cs : List Char) : Verdict :=
  let last := cs.getLast?
  match cs with
  | [] => .unfinished
  | ['['] => .unfinished
  | 'Z' :: _ => .complete (some (.ofCode .backTab))
  | 'M' :: rest => if (String.ofList rest).utf8ByteSize < 3 then .unfinished else .complete none
  | '<' :: _ => if last = some 'M' || last = some 'm' then .complete none else .unfinished
  | '?' :: rest =>
      if last = some 'c' || (last = some 'u' && 2 ≤ rest.length) then .complete none else .unfinished
  | first :: _ =>
      if !first.isDigit then .complete ((ofLetter? first).map KeyEvent.ofCode)
      else
        let final := last.getD first
        let numbers := cs.dropLast
        if final.toNat < 64 || 126 < final.toNat then .unfinished
        else if "200~".toList.isPrefixOf cs then
          if "\x1b[201~".toList.isSuffixOf cs then .complete none else .unfinished
        else if final = '~' then
          .complete (if numbers = ['3'] then some (.ofCode .delete) else none)
        else if final = 'u' then .complete (ofNumbers? numbers)
        else if final = 'M' || final = 'R' then .complete none
        else .complete (ofNumberedLetter? numbers final)

/-- Judges a sequence. An escape before another character stands for a key that is held with it and
changes nothing. -/
def judge : List Char → Verdict
  | [] => .unfinished
  | ['\x1b'] => .unfinished
  | ['\x1b', 'O'] => .unfinished
  | '\x1b' :: 'O' :: c :: _ => .complete ((ofLetter? c).map KeyEvent.ofCode)
  | '\x1b' :: '[' :: rest => judgeBracket rest
  | '\x1b' :: '\x1b' :: _ => .complete (some (.ofCode .escape))
  | '\x1b' :: c :: _ => .complete (some (ofChar c))
  | c :: _ => .complete (some (ofChar c))

/-- The keys that characters were sent for, behind the beginning of a sequence. A lonely escape at the
end is a key. -/
def read (begun : List Char) : List Char → List KeyEvent
  | [] => if begun = ['\x1b'] then [.ofCode .escape] else []
  | c :: rest =>
      match judge (begun ++ [c]) with
      | .unfinished => read (begun ++ [c]) rest
      | .complete key => key.toList ++ read [] rest

/-- The keys that characters were sent for. -/
def ofChars (cs : List Char) : List KeyEvent := read [] cs

end AuditDesk.Keystroke
