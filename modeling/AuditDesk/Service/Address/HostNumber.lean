import AuditDesk.Text.Percent

/-!
The numbers that hosts have. A short one is of 32 bits and is written as up to four parts with full
stops between them; a long one is of 128 bits and is written as eight groups with colons between them, a
run of zeros being left out.
-/
namespace AuditDesk.Service

/-- The number that digits of a base make. -/
def numeral? (base : Nat) (digits : List Char) : Option Nat :=
  digits.foldlM (fun n c => do
    let d ← Text.Percent.hexValue? c
    if d < base then some (n * base + d) else none) 0

namespace ShortNumber

/-- A part is decimal, or octal behind a zero, or hexadecimal behind `0x`. -/
def part? : List Char → Option Nat
  | [] => none
  | '0' :: 'x' :: digits => numeral? 16 digits
  | '0' :: digit :: digits => numeral? 8 (digit :: digits)
  | digits => numeral? 10 digits

/-- A full stop may follow the last part. -/
def parts (labels : List (List Char)) : List (List Char) :=
  if labels.getLast? = some [] then labels.dropLast else labels

/-- Whether the labels of a name, which ends in a number, are meant as one. -/
def isMeant (labels : List (List Char)) : Bool :=
  (parts labels).getLast?.any fun last =>
    (!last.isEmpty && last.all Char.isDigit) || (part? last).isSome

/-- Each part is a byte, but the last one fills what is left. -/
def ofLabels? (labels : List (List Char)) : Option Nat := do
  let numbers ← (parts labels).mapM part?
  let last ← numbers.getLast?
  let front := numbers.dropLast
  if 3 < front.length || front.any (255 < ·) || last >>> (8 * (4 - front.length)) ≠ 0 then none
  else some (front.zipIdx.foldl (fun n part => n + part.1 <<< (8 * (3 - part.2))) last)

def text (number : Nat) : String :=
  ".".intercalate ([24, 16, 8, 0].map fun shift => toString (number >>> shift % 256))

end ShortNumber

namespace LongNumber

/-- A group is of up to four hexadecimal digits. -/
def group? (digits : List Char) : Option Nat :=
  if digits.isEmpty || 4 < digits.length then none else numeral? 16 digits

/-- A byte in decimal, without zeros in front. -/
def byte? (digits : List Char) : Option Nat :=
  if digits.isEmpty || 3 < digits.length || (digits.head? = some '0' && digits.length ≠ 1) then none
  else (numeral? 10 digits).filter (· < 256)

/-- Two groups, written as four bytes. -/
def bytes? (cs : List Char) : Option (List Nat) := do
  match ← (cs.splitOn '.').mapM byte? with
  | [a, b, c, d] => some [a * 256 + b, c * 256 + d]
  | _ => none

/-- The last two groups may be written as bytes. -/
def groups? : List (List Char) → Option (List Nat)
  | [] => some []
  | [last] => if last.contains '.' then bytes? last else (group? last).map fun group => [group]
  | first :: rest => do return (← group? first) :: (← groups? rest)

/-- What stands before and behind the first double colon. -/
def halves? : List Char → Option (List Char × List Char)
  | ':' :: ':' :: rest => some ([], rest)
  | c :: rest => (halves? rest).map fun halves => (c :: halves.1, halves.2)
  | [] => none

def fields (cs : List Char) : List (List Char) := if cs.isEmpty then [] else cs.splitOn ':'

def parse? (cs : List Char) : Option (List Nat) :=
  match halves? cs with
  | none => (groups? (fields cs)).filter (·.length = 8)
  | some (front, back) => do
      let front ← (fields front).mapM group?
      let back ← groups? (fields back)
      let named := front.length + back.length
      if named < 8 then some (front ++ List.replicate (8 - named) 0 ++ back) else none

/-- Where the first of the longest runs of zeros begins, and its length. -/
def longestZeros (groups : List Nat) : Nat × Nat :=
  (List.range groups.length).foldl (fun longest start =>
    let length := ((groups.drop start).takeWhile (· = 0)).length
    if longest.2 < length then (start, length) else longest) (0, 0)

def text (groups : List Nat) : String :=
  let written (groups : List Nat) : String :=
    ":".intercalate (groups.map fun group => String.ofList (Nat.toDigits 16 group))
  let (start, length) := longestZeros groups
  if length < 2 then written groups
  else written (groups.take start) ++ "::" ++ written (groups.drop (start + length))

end LongNumber

end AuditDesk.Service
