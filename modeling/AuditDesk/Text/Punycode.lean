/-!
Any text in letters, digits and hyphens. The plain characters come first; each other one is described by
how far one has to go from the one before it, counting first the places in the text and then the
characters in their order. The numbers are written in digits of varying range, to which a bias adapts.
-/
namespace AuditDesk.Text.Punycode

def digit (n : Nat) : Char := if n < 26 then Char.ofNat (97 + n) else Char.ofNat (22 + n)

def digitValue? (c : Char) : Option Nat :=
  if c.isDigit then some (c.toNat - 22)
  else if c.isAlpha then some (c.toLower.toNat - 97)
  else none

/-- The least digit that does not end a number, at a position that is a multiple of 36. -/
def threshold (bias position : Nat) : Nat := max 1 (min 26 (position - bias))

/-- The bias after a step of `delta` that was the first or led to the given number of characters. -/
def adapted (delta count : Nat) (first : Bool) : Nat :=
  let delta := if first then delta / 700 else delta / 2
  scaled 0 (delta + delta / count)
where
  scaled (bias delta : Nat) : Nat :=
    if 455 < delta then scaled (bias + 36) (delta / 35) else bias + 36 * delta / (delta + 38)
  termination_by delta
  decreasing_by omega

/-- The digits of a number, from the given position on. -/
def digits (bias position n : Nat) : List Char :=
  let t := threshold bias position
  if n < t then [digit n]
  else digit (t + (n - t) % (36 - t)) :: digits bias (position + 36) ((n - t) / (36 - t))
termination_by n
decreasing_by
  have positive : 1 ≤ threshold bias position := by unfold threshold; omega
  exact Nat.lt_of_le_of_lt (Nat.div_le_self _ _) (by omega)

def isPlain (c : Char) : Bool := c.toNat < 0x80

/-- A text that is being written. -/
structure Writing where
  written : List Char
  delta : Nat
  bias : Nat
  /-- The number of characters described so far. -/
  count : Nat
  first : Bool

/-- Passes a character while those that equal `target` are described. -/
def Writing.pass (target : Char) (w : Writing) (c : Char) : Writing :=
  if c < target then { w with delta := w.delta + 1 }
  else if c = target then
    { written := w.written ++ digits w.bias 36 w.delta
      delta := 0
      bias := adapted w.delta (w.count + 1) w.first
      count := w.count + 1
      first := false }
  else w

/-- Describes the characters of a text that equal one of `targets`, which ascend; all up to `done` have
been described. -/
def Writing.describe (cs : List Char) (done : Nat) (w : Writing) : List Char → Writing
  | [] => w
  | target :: targets =>
      let w := { w with delta := w.delta + (target.toNat - done) * (w.count + 1) }
      let w := cs.foldl (Writing.pass target) w
      Writing.describe cs (target.toNat + 1) { w with delta := w.delta + 1 } targets

def encode (cs : List Char) : List Char :=
  let plain := cs.filter isPlain
  let targets := ((cs.filter fun c => !isPlain c).mergeSort fun a b => a ≤ b).eraseDups
  let opening := if plain.isEmpty then [] else plain ++ ['-']
  opening ++ (Writing.describe cs 0x80 ⟨[], 0, 72, plain.length, true⟩ targets).written

/-- A text that is being read, and the number whose digits come next. -/
structure Reading where
  read : List Char
  char : Nat
  place : Nat
  bias : Nat
  /-- The number so far, the weight of its next digit and the position of that digit. -/
  number : Nat
  weight : Nat
  position : Nat

/-- Reads a digit; the last one of a number puts a character in its place. -/
def Reading.take (r : Reading) (c : Char) : Option Reading := do
  let d ← digitValue? c
  let t := threshold r.bias r.position
  let number := r.number + d * r.weight
  if d < t then
    let count := r.read.length + 1
    let char := r.char + (r.place + number) / count
    let place := (r.place + number) % count
    if char.isValidChar then
      some ⟨r.read.insertIdx place (Char.ofNat char), char, place + 1,
        adapted number count (r.read.all isPlain), 0, 1, 36⟩
    else none
  else some { r with number := number, weight := r.weight * (36 - t), position := r.position + 36 }

def decode? (cs : List Char) : Option (List Char) := do
  let coded := (cs.reverse.takeWhile (· ≠ '-')).reverse
  let plain := (cs.take (cs.length - coded.length)).dropLast
  let r ← coded.foldlM Reading.take ⟨plain, 0x80, 0, 72, 0, 1, 36⟩
  if r.position = 36 then some r.read else none

end AuditDesk.Text.Punycode
