import AuditDesk.Time.Timestamp
import Mathlib.Data.List.Basic

/-! Days are counted without gaps: the next day has the next number, in whatever month or year it is, and two days
never have the same number. So seconds can be counted across all of these boundaries. -/
namespace AuditDesk

namespace Date

/-- The number of the last day before a year. -/
def daysBeforeYear (year : Int) : Int :=
  365 * (year - 1) + (year - 1) / 4 - (year - 1) / 100 + (year - 1) / 400

def daysInYear (year : Int) : Nat := if isLeapYear year then 366 else 365

section Years

variable {year later : Int} {month other : Nat}

theorem isLeapYear_iff : isLeapYear year = true ↔ year % 4 = 0 ∧ (year % 100 ≠ 0 ∨ year % 400 = 0) := by
  simp [isLeapYear]

theorem daysBeforeYear_succ (year : Int) : daysBeforeYear (year + 1) = daysBeforeYear year + daysInYear year := by
  unfold daysBeforeYear daysInYear
  split <;> rename_i hLeap <;> rw [isLeapYear_iff] at hLeap <;> omega

theorem daysBeforeYear_mono (h : year ≤ later) : daysBeforeYear year ≤ daysBeforeYear later := by
  unfold daysBeforeYear
  omega

theorem daysBeforeMonth_succ (hMonth : 1 ≤ month) :
    daysBeforeMonth year (month + 1) = daysBeforeMonth year month + daysInMonth year month := by
  have hSome : 1 ≤ (List.range month).length := by rwa [List.length_range]
  rw [daysBeforeMonth, List.range_succ, List.drop_append_of_le_length hSome, List.foldl_append]
  rfl

theorem daysBeforeMonth_mono (hMonth : 1 ≤ month) (h : month ≤ other) :
    daysBeforeMonth year month ≤ daysBeforeMonth year other := by
  induction h with
  | refl => exact Nat.le_refl _
  | step hLess ih =>
      rw [daysBeforeMonth_succ (Nat.le_trans hMonth hLess)]
      omega

/-- The twelve months make up the year. -/
theorem daysBeforeMonth_year (year : Int) : daysBeforeMonth year 13 = daysInYear year := by
  unfold daysInYear
  cases hLeap : isLeapYear year <;> simp [daysBeforeMonth, daysInMonth, hLeap, List.range_succ]

end Years

section Days

variable {d e : Date}

theorem dayNumber_eq (d : Date) :
    d.dayNumber = daysBeforeYear d.year + daysBeforeMonth d.year d.month + d.day := rfl

/-- The day is within its month, and the month within its year. -/
theorem dayNumber_bounds (d : Date) :
    daysBeforeYear d.year + daysBeforeMonth d.year d.month < d.dayNumber ∧
      d.dayNumber ≤ daysBeforeYear d.year + daysBeforeMonth d.year (d.month + 1) := by
  have hDay := d.day_mem
  rw [dayNumber_eq, daysBeforeMonth_succ d.month_mem.1]
  omega

theorem daysBeforeMonth_le (d : Date) : daysBeforeMonth d.year (d.month + 1) ≤ daysInYear d.year := by
  have hMonth := d.month_mem.2
  rw [← daysBeforeMonth_year]
  exact daysBeforeMonth_mono (by omega) (by omega)

theorem dayNumber_newYear (year : Int) : (newYear year).dayNumber = daysBeforeYear year + 1 := by
  simp [dayNumber_eq, newYear, daysBeforeMonth]

theorem daysBeforeMonth_december (year : Int) :
    daysBeforeMonth year 12 + daysInMonth year 12 = daysInYear year := by
  rw [← daysBeforeMonth_succ (by decide), daysBeforeMonth_year]

theorem dayNumber_next (d : Date) : d.next.dayNumber = d.dayNumber + 1 := by
  have hDay := d.day_mem
  have hMonth := d.month_mem
  unfold next
  split
  · simp only [dayNumber_eq]
    omega
  · split
    · simp only [dayNumber_eq, daysBeforeMonth_succ hMonth.1]
      omega
    · have hLast : d.month = 12 := by omega
      have hYear := daysBeforeMonth_december d.year
      rw [← hLast] at hYear
      rw [dayNumber_newYear, daysBeforeYear_succ, dayNumber_eq]
      omega

theorem dayNumber_previous (d : Date) : d.previous.dayNumber = d.dayNumber - 1 := by
  have hDay := d.day_mem
  have hMonth := d.month_mem
  unfold previous
  split
  · simp only [dayNumber_eq]
    omega
  · split
    · have hSucc := @daysBeforeMonth_succ d.year (d.month - 1) (by omega)
      rw [show d.month - 1 + 1 = d.month by omega] at hSucc
      simp only [dayNumber_eq]
      omega
    · have hFirst : daysBeforeMonth d.year d.month = 0 := by
        rw [show d.month = 1 by omega]
        rfl
      have hYear := daysBeforeMonth_december (d.year - 1)
      have hSucc := daysBeforeYear_succ (d.year - 1)
      rw [show d.year - 1 + 1 = d.year by omega] at hSucc
      simp only [dayNumber_eq]
      omega

theorem dayNumber_lt_of_year (h : d.year < e.year) : d.dayNumber < e.dayNumber := by
  have hYears : daysBeforeYear (d.year + 1) ≤ daysBeforeYear e.year := daysBeforeYear_mono h
  have hMonths := daysBeforeMonth_le d
  rw [daysBeforeYear_succ] at hYears
  have hLate := d.dayNumber_bounds.2
  have hEarly := e.dayNumber_bounds.1
  omega

theorem dayNumber_lt_of_month (hYear : d.year = e.year) (h : d.month < e.month) : d.dayNumber < e.dayNumber := by
  have hMonths : daysBeforeMonth d.year (d.month + 1) ≤ daysBeforeMonth d.year e.month :=
    daysBeforeMonth_mono (by omega) h
  have hLate := d.dayNumber_bounds.2
  have hEarly := e.dayNumber_bounds.1
  rw [← hYear] at hEarly
  omega

theorem dayNumber_injective : Function.Injective dayNumber := by
  intro d e hSame
  have hYear : d.year = e.year := by
    rcases Int.lt_trichotomy d.year e.year with hLess | hEqual | hMore
    · exact absurd hSame (Int.ne_of_lt (dayNumber_lt_of_year hLess))
    · exact hEqual
    · exact absurd hSame.symm (Int.ne_of_lt (dayNumber_lt_of_year hMore))
  have hMonth : d.month = e.month := by
    rcases Nat.lt_trichotomy d.month e.month with hLess | hEqual | hMore
    · exact absurd hSame (Int.ne_of_lt (dayNumber_lt_of_month hYear hLess))
    · exact hEqual
    · exact absurd hSame.symm (Int.ne_of_lt (dayNumber_lt_of_month hYear.symm hMore))
  have hDay : d.day = e.day := by
    rw [dayNumber_eq, dayNumber_eq, hYear, hMonth] at hSame
    omega
  cases d
  cases e
  simp_all

end Days

end Date

namespace Timestamp

variable {t u : Timestamp}

/-- The seconds since the first day began. A leap second has the number of the second before it. -/
def moment (t : Timestamp) : Int := 86400 * t.date.dayNumber + t.second

/-- Nothing but its seconds and its nanoseconds is in an instant. -/
theorem eq_of_moment (hMoment : t.moment = u.moment) (hNano : t.nano = u.nano) : t = u := by
  have hFirst := t.second_lt
  have hSecond := u.second_lt
  unfold moment at hMoment
  have hDate : t.date = u.date := Date.dayNumber_injective (by omega)
  have hClock : t.second = u.second := by
    rw [hDate] at hMoment
    omega
  cases t
  cases u
  simp_all

/-- A clock that is ahead shows what universal time shows so many minutes later. -/
theorem moment_behind (t : Timestamp) (minutes : Int) (hSmall : minutes.natAbs < 1440) :
    (t.behind minutes hSmall).moment = t.moment - 60 * minutes := by
  have hSecond := t.second_lt
  simp only [behind, moment]
  split
  · simp only [Date.dayNumber_previous]
    omega
  · split
    · simp only [Date.dayNumber_next]
      omega
    · dsimp only
      omega

theorem nano_behind (t : Timestamp) (minutes : Int) (hSmall : minutes.natAbs < 1440) :
    (t.behind minutes hSmall).nano = t.nano := by
  simp only [behind]
  split
  · rfl
  · split <;> rfl

/-- There is one instant that is so many minutes earlier. -/
theorem eq_behind_iff {minutes : Int} {hSmall : minutes.natAbs < 1440} :
    u = t.behind minutes hSmall ↔ u.moment = t.moment - 60 * minutes ∧ u.nano = t.nano := by
  constructor
  · rintro rfl
    exact ⟨moment_behind t minutes hSmall, nano_behind t minutes hSmall⟩
  · rintro ⟨hMoment, hNano⟩
    exact eq_of_moment (hMoment.trans (moment_behind t minutes hSmall).symm)
      (hNano.trans (nano_behind t minutes hSmall).symm)

end Timestamp

end AuditDesk
