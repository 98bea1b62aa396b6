import AuditDesk.Time.Calendar
import AuditDesk.Text.Blank

/-!
Instants in coordinated universal time, to the nanosecond. A leap second is the second 59 of its
minute with a thousand million nanoseconds or more.
-/
namespace AuditDesk

structure Timestamp where
  date : Date
  /-- Seconds since midnight. -/
  second : Nat
  nano : Nat
  second_lt : second < 86400
  nano_lt : nano < 2000000000
  /-- Only the last second of a minute can be followed by a leap second. -/
  leap : 1000000000 ≤ nano → second % 60 = 59
deriving DecidableEq

namespace Timestamp

/-- A time of day; second 60 is the leap second. -/
def ofClock? (date : Date) (hour minute second nano : Nat) : Option Timestamp :=
  if h : hour < 24 ∧ minute < 60 ∧ second ≤ 60 ∧ nano < 1000000000 then
    if hLeap : second = 60 then
      some ⟨date, hour * 3600 + minute * 60 + 59, nano + 1000000000, by omega, by omega, by omega⟩
    else
      some ⟨date, hour * 3600 + minute * 60 + second, nano, by omega, by omega, by omega⟩
  else none

/-- Midnight at the start of a day. -/
def ofDate (date : Date) : Timestamp := ⟨date, 0, 0, by decide, by decide, by decide⟩

/-- The instant that a clock ahead of universal time by so many minutes shows as `t`. -/
def behind (t : Timestamp) (minutes : Int) (_small : minutes.natAbs < 1440) : Timestamp :=
  let shifted := (t.second : Int) - 60 * minutes
  if hLow : shifted < 0 then
    ⟨t.date.previous, (shifted + 86400).toNat, t.nano, by omega, t.nano_lt, by have := t.leap; omega⟩
  else if hHigh : 86400 ≤ shifted then
    ⟨t.date.next, (shifted - 86400).toNat, t.nano, by have := t.second_lt; omega, t.nano_lt,
      by have := t.leap; omega⟩
  else
    ⟨t.date, shifted.toNat, t.nano, by omega, t.nano_lt, by have := t.leap; omega⟩

/-- The instant so many milliseconds later; leap seconds take no time of their own. -/
def later (t : Timestamp) (milliseconds : Nat) : Timestamp :=
  let nanos := t.nano % 1000000000 + milliseconds * 1000000
  let seconds := t.second + nanos / 1000000000
  ⟨t.date.forward (seconds / 86400), seconds % 86400, nanos % 1000000000, by omega, by omega, by omega⟩

/-- A number with at least so many digits. -/
def digits (width n : Nat) : String :=
  let shown := toString n
  Text.repeated (width - shown.length) '0' ++ shown

/-- Four digits, or a sign and at least four digits for years that four digits cannot show. -/
def yearText (year : Int) : String :=
  if 0 ≤ year && year ≤ 9999 then digits 4 year.toNat
  else (if year < 0 then "-" else "+") ++ digits 4 year.natAbs

def dateText (t : Timestamp) : String :=
  yearText t.date.year ++ "-" ++ digits 2 t.date.month ++ "-" ++ digits 2 t.date.day

def minuteText (t : Timestamp) : String :=
  digits 2 (t.second / 3600) ++ ":" ++ digits 2 (t.second / 60 % 60)

/-- Three, six or nine digits, as few as show the fraction; none when there is no fraction. -/
def fractionText (nano : Nat) : String :=
  if nano = 0 then ""
  else if nano % 1000000 = 0 then "." ++ digits 3 (nano / 1000000)
  else if nano % 1000 = 0 then "." ++ digits 6 (nano / 1000)
  else "." ++ digits 9 nano

/-- Date and time, without an offset. -/
def unzoned (t : Timestamp) : String :=
  let leap := t.nano / 1000000000
  t.dateText ++ "T" ++ t.minuteText ++ ":" ++ digits 2 (t.second % 60 + leap) ++
    fractionText (t.nano % 1000000000)

/-- The form in which results carry it. -/
def wire (t : Timestamp) : String := t.unzoned ++ "Z"

def rfc3339 (t : Timestamp) : String := t.unzoned ++ "+00:00"

/-- Date, hour and minute, for lists. -/
def short (t : Timestamp) : String := t.dateText ++ " " ++ t.minuteText

end Timestamp

end AuditDesk
