import AuditDesk.Json.Reader

/-!
Number literals. A whole number that fits 64 bits stays whole; every other literal becomes a double:
the significand's leading digits, as many as fit 64 bits, scaled by a power of ten in one operation,
or by steps of `10^308` when the exponent is larger than that.
-/
namespace AuditDesk.Json

namespace Numeral

def digitOf (b : UInt8) : Option Nat :=
  if 48 ≤ b && b ≤ 57 then some (b.toNat - 48) else none

def isDigit (b : UInt8) : Bool := 48 ≤ b && b ≤ 57

def maxWord : Nat := 18446744073709551615
def maxExponent : Nat := 2147483647

/-- Powers of ten as doubles; beyond `10^308` there are none. -/
def powerOfTen (n : Nat) : Float := Float.ofScientific 1 false n

/-- Scales by `10^exponent`. Nothing when the result would not be finite. -/
def scaled (x : Float) (exponent : Int) : Option Float :=
  if exponent.natAbs ≤ 308 then
    if 0 ≤ exponent then
      let y := x * powerOfTen exponent.natAbs
      if y.isInf then none else some y
    else some (x / powerOfTen exponent.natAbs)
  else if x == 0.0 then some x
  else if 0 ≤ exponent then none
  else
    let y := x / powerOfTen 308
    if (exponent + 308).natAbs ≤ 308 then some (y / powerOfTen (exponent + 308).natAbs)
    -- A second step takes every 64-bit significand below the least double.
    else some (y / powerOfTen 308)

def signed (positive : Bool) (x : Float) : Float := if positive then x else -x

/-- The digits of a significand, as far as they fit 64 bits, with the number of digits read and the
bytes that follow. -/
def wordDigits (value count : Nat) : List UInt8 → Nat × Nat × List UInt8
  | [] => (value, count, [])
  | b :: rest =>
      match digitOf b with
      | some d =>
          if value * 10 + d ≤ maxWord then wordDigits (value * 10 + d) (count + 1) rest
          else (value, count, b :: rest)
      | none => (value, count, b :: rest)

/-- The value of an exponent's digits, of which `count` have been read. An exponent that does not fit
31 bits is an error, which says how many digits have been read by then. -/
def exponentDigits (value count : Nat) : List UInt8 → Except Nat Nat
  | [] => .ok value
  | b :: rest =>
      match digitOf b with
      | some d =>
          if value * 10 + d ≤ maxExponent then exponentDigits (value * 10 + d) (count + 1) rest
          else .error (count + 1)
      | none => .ok value

end Numeral

namespace Reader

open Numeral

def skipDigits : Reader Unit := fun c => .done () (c.skipWhile isDigit)

/-- Reads digits while the significand fits 64 bits, and says how many there were. -/
def significand (start : Nat) : Reader (Nat × Nat) := fun c =>
  let (value, count, _) := wordDigits start 0 c.rest
  .done (value, count) (c.forward count)

def finish (positive : Bool) (value : Nat) (exponent : Int) : Reader Number :=
  match scaled value.toUInt64.toFloat exponent with
  | some x => yield (.double (signed positive x))
  | none => failHere .numberOutOfRange

/-- The exponent part, whose `e` is the next byte. -/
def exponentPart (positive : Bool) (value : Nat) (exponent : Int) : Reader Number := do
  skip
  let upward ← match ← look with
    | some '+' => do skip; yield true
    | some '-' => do skip; yield false
    | _ => yield true
  let c? ← look
  match c? with
  | none => failHere .endOfValue
  | some c =>
      if !c.isDigit then
        skip
        failHere .invalidNumber
      else fun cursor =>
        let last := cursor.skipWhile isDigit
        match exponentDigits 0 0 cursor.rest with
        | .ok e => finish positive value (if upward then exponent + e else exponent - e) last
        | .error count =>
            if value ≠ 0 && upward then failHere .numberOutOfRange (cursor.forward count)
            else .done (.double (signed positive 0.0)) last

def isExponentMark (c? : Option Char) : Bool :=
  c? = some 'e' || c? = some 'E'

/-- The fraction, whose point is the next byte. Digits that no longer fit the significand are
dropped. -/
def fractionPart (positive : Bool) (value : Nat) (exponent : Int) : Reader Number := do
  skip
  let first ← look
  let (value, count) ← significand value
  let next ← look
  if count = 0 && !(first.any Char.isDigit) then
    match next with
    | some _ => failAhead .invalidNumber
    | none => failAhead .endOfValue
  else
    skipDigits
    let exponent := exponent - count
    if isExponentMark (← look) then exponentPart positive value exponent
    else finish positive value exponent

/-- A whole significand that no longer fits 64 bits: the digits left over only scale it. -/
def longNumber (positive : Bool) (value : Nat) : Reader Number := fun cursor =>
  let next := cursor.skipWhile isDigit
  let dropped : Int := cursor.rest.length - next.rest.length
  match next.peek? with
  | some '.' => fractionPart positive value dropped next
  | c? =>
      if isExponentMark c? then exponentPart positive value dropped next
      else finish positive value dropped next

/-- A number whose sign has been read. -/
def unsignedNumber (positive : Bool) : Reader Number := do
  match ← look with
  | none => failHere .endOfValue
  | some '0' => do
      skip
      if (← look).any Char.isDigit then failAhead .invalidNumber else tail 0
  | some c =>
      if c.isDigit then do
        let (value, _) ← significand 0
        if (← look).any Char.isDigit then longNumber positive value else tail value
      else do
        skip
        failHere .invalidNumber
where
  tail (value : Nat) : Reader Number := do
    let c? ← look
    if c? = some '.' then fractionPart positive value 0
    else if isExponentMark c? then exponentPart positive value 0
    else if positive then yield (.integer value)
    else if value = 0 || 9223372036854775808 < value then yield (.double (-value.toUInt64.toFloat))
    else yield (.integer (-value))

/-- Passes over a number, checking its form only. -/
def skipUnsigned : Reader Unit := do
  match ← look with
  | some '0' => do
      skip
      if (← look).any Char.isDigit then failAhead .invalidNumber else tail
  | some c =>
      if c.isDigit then do
        skipDigits
        tail
      else do
        skip
        failHere .invalidNumber
  | none => failHere .invalidNumber
where
  tail : Reader Unit := do
    let c? ← look
    if c? = some '.' then
      skip
      if (← look).any Char.isDigit then
        skipDigits
        if isExponentMark (← look) then exponent
      else failAhead .invalidNumber
    else if isExponentMark c? then exponent
  exponent : Reader Unit := do
    skip
    match ← look with
    | some '+' => skip
    | some '-' => skip
    | _ => yield ()
    if (← look).any Char.isDigit then skipDigits
    else
      skip
      failHere .invalidNumber

end Reader

end AuditDesk.Json
