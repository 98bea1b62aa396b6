/-!
Days of the proleptic Gregorian calendar, years before the common era counted down through zero.
-/
namespace AuditDesk

def isLeapYear (year : Int) : Bool :=
  year % 4 == 0 && (year % 100 != 0 || year % 400 == 0)

/-- The length of a month, January being month 1. -/
def daysInMonth (year : Int) (month : Nat) : Nat :=
  match month with
  | 2 => if isLeapYear year then 29 else 28
  | 4 | 6 | 9 | 11 => 30
  | _ => 31

theorem one_le_daysInMonth (year : Int) (month : Nat) : 1 ≤ daysInMonth year month := by
  unfold daysInMonth
  split <;> first | omega | (split <;> omega)

theorem daysInMonth_le (year : Int) (month : Nat) : daysInMonth year month ≤ 31 := by
  unfold daysInMonth
  split <;> first | omega | (split <;> omega)

/-- A day that the calendar has. -/
structure Date where
  year : Int
  month : Nat
  day : Nat
  month_mem : 1 ≤ month ∧ month ≤ 12
  day_mem : 1 ≤ day ∧ day ≤ daysInMonth year month
deriving DecidableEq

namespace Date

def ofParts? (year : Int) (month day : Nat) : Option Date :=
  if h : (1 ≤ month ∧ month ≤ 12) ∧ (1 ≤ day ∧ day ≤ daysInMonth year month) then
    some ⟨year, month, day, h.1, h.2⟩
  else none

/-- The first of January. -/
def newYear (year : Int) : Date := ⟨year, 1, 1, by decide, Nat.le_refl 1, one_le_daysInMonth _ _⟩

def next (d : Date) : Date :=
  if hDay : d.day < daysInMonth d.year d.month then
    ⟨d.year, d.month, d.day + 1, d.month_mem, by omega, by omega⟩
  else if hMonth : d.month < 12 then
    ⟨d.year, d.month + 1, 1, ⟨by omega, by omega⟩, Nat.le_refl 1, one_le_daysInMonth _ _⟩
  else newYear (d.year + 1)

def previous (d : Date) : Date :=
  if hDay : 1 < d.day then
    ⟨d.year, d.month, d.day - 1, d.month_mem, by omega, by have := d.day_mem.2; omega⟩
  else if hMonth : 1 < d.month then
    ⟨d.year, d.month - 1, daysInMonth d.year (d.month - 1),
      ⟨by omega, by have := d.month_mem.2; omega⟩, one_le_daysInMonth _ _, Nat.le_refl _⟩
  else
    ⟨d.year - 1, 12, daysInMonth (d.year - 1) 12, by decide, one_le_daysInMonth _ _, Nat.le_refl _⟩

/-- The day that follows after so many days. -/
def forward : Nat → Date → Date
  | 0, d => d
  | n + 1, d => forward n d.next

/-- The days of a common or leap year before the first of a month. -/
def daysBeforeMonth (year : Int) (month : Nat) : Nat :=
  ((List.range month).drop 1).foldl (fun total m => total + daysInMonth year m) 0

/-- The number of the day, 1 January of year 1 being day 1. -/
def dayNumber (d : Date) : Int :=
  let before := d.year - 1
  365 * before + before / 4 - before / 100 + before / 400 + daysBeforeMonth d.year d.month + d.day

end Date

end AuditDesk
