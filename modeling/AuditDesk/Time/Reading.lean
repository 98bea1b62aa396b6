import AuditDesk.Time.Timestamp

/-!
Reading timestamps. The internet form (RFC 3339, also with a space between date and time) has fixed
field widths and an offset. What does not fit it is tried without an offset, taken as universal time;
there fields may be shorter, may follow white space, and the year may carry a sign.
-/
namespace AuditDesk.Timestamp

/-- A reader takes the beginning of a text and returns what follows it. -/
abbrev Scan (α : Type) := List Char → Option (α × List Char)

namespace Scan

/-- Reads digits, at most so many, after others that make up a value, and counts them all. -/
def digitsFrom (value count : Nat) : Nat → List Char → Nat × Nat × List Char
  | most + 1, c :: rest =>
      if c.isDigit then digitsFrom (value * 10 + (c.toNat - 48)) (count + 1) most rest
      else (value, count, c :: rest)
  | _, rest => (value, count, rest)

/-- Between `least` and `most` digits, as many as there are; with their number. -/
def counted (least most : Nat) : Scan (Nat × Nat) := fun cs =>
  let (value, count, rest) := digitsFrom 0 0 most cs
  if least ≤ count then some ((value, count), rest) else none

def number (least most : Nat) : Scan Nat := fun cs => do
  let ((value, _), rest) ← counted least most cs
  return (value, rest)

def char (wanted : Char) : List Char → Option (List Char)
  | c :: rest => if c = wanted then some rest else none
  | [] => none

/-- A fraction after its point, cut to nanoseconds; further digits are read and dropped. -/
def fraction : Scan Nat := fun cs => do
  let ((value, count), rest) ← counted 1 9 cs
  return (value * Nat.pow 10 (9 - count), rest.dropWhile Char.isDigit)

/-- A fraction if a point follows. -/
def optionalFraction : Scan Nat := fun
  | '.' :: rest => fraction rest
  | rest => some (0, rest)

def blanks (cs : List Char) : List Char := cs.dropWhile Text.isBlank

end Scan

/-- An offset from universal time in minutes, less than a day. -/
structure Offset where
  minutes : Int
  small : minutes.natAbs < 1440

namespace Offset

def zero : Offset := ⟨0, by decide⟩

def ofParts? (negative : Bool) (hours minutes : Nat) : Option Offset :=
  if h : hours < 24 ∧ minutes < 60 then
    let size := hours * 60 + minutes
    if negative then some ⟨-(size : Int), by omega⟩ else some ⟨size, by omega⟩
  else none

/-- `Z`, or a sign, two digits for the hours, a colon and two digits for the minutes. The minus sign
U+2212 is a minus too. -/
def scan : Scan Offset := fun
  | [] => none
  | sign :: cs =>
      if sign = 'Z' || sign = 'z' then some (zero, cs)
      else if sign = '+' || sign = '-' || sign = '\u2212' then do
        let (hours, cs) ← Scan.number 2 2 cs
        let cs ← Scan.char ':' cs
        let (minutes, cs) ← Scan.number 2 2 cs
        return (← ofParts? (sign ≠ '+') hours minutes, cs)
      else none

end Offset

/-- The internet form. -/
def ofInternet? (cs : List Char) : Option Timestamp := do
  let (year, cs) ← Scan.number 4 4 cs
  let cs ← Scan.char '-' cs
  let (month, cs) ← Scan.number 2 2 cs
  let cs ← Scan.char '-' cs
  let (day, cs) ← Scan.number 2 2 cs
  let cs ← match cs with
    | c :: rest => if c = 'T' || c = 't' || c = ' ' then some rest else none
    | [] => none
  let (hour, cs) ← Scan.number 2 2 cs
  let cs ← Scan.char ':' cs
  let (minute, cs) ← Scan.number 2 2 cs
  let cs ← Scan.char ':' cs
  let (second, cs) ← Scan.number 2 2 cs
  let (nano, cs) ← Scan.optionalFraction cs
  let (offset, cs) ← Offset.scan cs
  if cs.isEmpty then
    let date ← Date.ofParts? year month day
    let shown ← ofClock? date hour minute second nano
    return shown.behind offset.minutes offset.small
  else none

/-- A year without a sign has at most four digits, one with a sign any number. -/
def signedYear : Scan Int := fun
  | '-' :: cs => do
      let (year, rest) ← Scan.number 1 cs.length cs
      return (-(year : Int), rest)
  | '+' :: cs => do
      let (year, rest) ← Scan.number 1 cs.length cs
      return ((year : Int), rest)
  | cs => do
      let (year, rest) ← Scan.number 1 4 cs
      return ((year : Int), rest)

/-- The years that a timestamp without an offset may have. -/
def yearAllowed (year : Int) : Bool := -262143 ≤ year && year ≤ 262142

/-- What stands between date and time: any amount of white space, or the letter `T`. -/
inductive Separator where
  | blanks
  | letter

def Separator.drop : Separator → List Char → Option (List Char)
  | .blanks, cs => some (Scan.blanks cs)
  | .letter, cs => Scan.char 'T' cs

/-- One or two digits, after white space. -/
def shortField : Scan Nat := fun cs => Scan.number 1 2 (Scan.blanks cs)

/-- The form without an offset, with an optional fraction or with none. -/
def ofNaive? (separator : Separator) (mayHaveFraction : Bool) (cs : List Char) :
    Option Timestamp := do
  let (year, cs) ← signedYear (Scan.blanks cs)
  let cs ← Scan.char '-' cs
  let (month, cs) ← shortField cs
  let cs ← Scan.char '-' cs
  let (day, cs) ← shortField cs
  let cs ← separator.drop cs
  let (hour, cs) ← shortField cs
  let cs ← Scan.char ':' cs
  let (minute, cs) ← shortField cs
  let cs ← Scan.char ':' cs
  let (second, cs) ← shortField cs
  let (nano, cs) ← if mayHaveFraction then Scan.optionalFraction cs else some (0, cs)
  if cs.isEmpty && yearAllowed year then
    let date ← Date.ofParts? year month day
    ofClock? date hour minute second nano
  else none

/-- A way of writing timestamps. -/
inductive Form where
  | internet
  | naive (separator : Separator) (mayHaveFraction : Bool)

def Form.read : Form → List Char → Option Timestamp
  | .internet => ofInternet?
  | .naive separator mayHaveFraction => ofNaive? separator mayHaveFraction

/-- The forms in the order in which they are tried. -/
def forms : List Form :=
  [.internet, .naive .blanks false, .naive .letter false, .naive .blanks true, .naive .letter true]

/-- Reads a timestamp in the first form that fits; white space around it is ignored. -/
def parse (text : String) : Option Timestamp :=
  forms.findSome? fun form => form.read (Text.trimChars text.toList)

end AuditDesk.Timestamp
