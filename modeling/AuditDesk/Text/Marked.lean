import AuditDesk.Text.Utf8

/-!
Bytes that may begin with a mark which says how they encode a text: as UTF-8, or in units of two bytes with
either of them first. Without a mark they are UTF-8. What encodes nothing is replaced.
-/
namespace AuditDesk.Text

/-- The units that the bytes make; of two bytes the first counts more if `highFirst` says so. A byte that
is left is no unit. -/
def units (highFirst : Bool) : List UInt8 → List (Option Nat)
  | a :: b :: rest =>
      some (if highFirst then a.toNat * 256 + b.toNat else b.toNat * 256 + a.toNat) ::
        units highFirst rest
  | [_] => [none]
  | [] => []

def isHighHalf (unit : Nat) : Bool := 0xD800 ≤ unit && unit < 0xDC00
def isLowHalf (unit : Nat) : Bool := 0xDC00 ≤ unit && unit < 0xE000

/-- Two units that are halves make one character; a half by itself makes none. -/
def ofUnits : List (Option Nat) → List Char
  | some high :: some low :: rest =>
      if isHighHalf high then
        if isLowHalf low then
          Char.ofNat (0x10000 + (high - 0xD800) * 1024 + (low - 0xDC00)) :: ofUnits rest
        else replacementChar :: ofUnits (some low :: rest)
      else (if isLowHalf high then replacementChar else Char.ofNat high) :: ofUnits (some low :: rest)
  | some unit :: none :: rest =>
      if isHighHalf unit then replacementChar :: ofUnits rest
      else
        (if isLowHalf unit then replacementChar else Char.ofNat unit) ::
          replacementChar :: ofUnits rest
  | [some unit] => [if isHighHalf unit || isLowHalf unit then replacementChar else Char.ofNat unit]
  | none :: rest => replacementChar :: ofUnits rest
  | [] => []

/-- The text without its mark. -/
def ofMarkedBytes (encoded : List UInt8) : String :=
  match encoded with
  | 0xEF :: 0xBB :: 0xBF :: rest => ofBytesLossy rest
  | 0xFE :: 0xFF :: rest => String.ofList (ofUnits (units true rest))
  | 0xFF :: 0xFE :: rest => String.ofList (ofUnits (units false rest))
  | _ => ofBytesLossy encoded

end AuditDesk.Text
