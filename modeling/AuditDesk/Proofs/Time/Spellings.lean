import AuditDesk.Proofs.Time.Agreeing
import AuditDesk.Proofs.Time.Counting

/-! However a date and a time of day are spelled, with a space or a letter between them, with white space around them,
with or without a `Z`, the same instant is read or none. An offset moves it by exactly so many minutes. -/
namespace AuditDesk.Timestamp

namespace Scan

variable {cs rest : List Char}

theorem ofDigitChars_lt_add (h : ∀ c ∈ cs, c.isDigit = true) (value : Nat) :
    Nat.ofDigitChars 10 cs value < (value + 1) * Nat.pow 10 cs.length := by
  rw [Nat.pow_eq]
  induction cs generalizing value with
  | nil => simp
  | cons c cs ih =>
      have hDigit : 48 ≤ c.toNat ∧ c.toNat ≤ 57 := Char.isDigit_iff_toNat.mp (h c List.mem_cons_self)
      have hMore := ih (fun d hd => h d (List.mem_cons_of_mem _ hd)) (10 * value + (c.toNat - '0'.toNat))
      have hZero : '0'.toNat = 48 := rfl
      rw [Nat.ofDigitChars_cons]
      calc
        _ < (10 * value + (c.toNat - '0'.toNat) + 1) * 10 ^ cs.length := hMore
        _ ≤ (10 * (value + 1)) * 10 ^ cs.length := Nat.mul_le_mul_right _ (by omega)
        _ = (value + 1) * 10 ^ (c :: cs).length := by
          rw [List.length_cons, Nat.pow_succ, Nat.mul_comm 10, Nat.mul_assoc, Nat.mul_comm 10]

/-- The first nine digits of a fraction are its nanoseconds, those behind them are less than one. -/
theorem cut_to_nine (h : ∀ c ∈ cs, c.isDigit = true) :
    Nat.ofDigitChars 10 (cs.take 9) 0 * Nat.pow 10 (9 - (cs.take 9).length) =
      Nat.ofDigitChars 10 cs 0 * 1000000000 / Nat.pow 10 cs.length := by
  simp only [Nat.pow_eq]
  by_cases hShort : cs.length ≤ 9
  · have hNine : 1000000000 = 10 ^ (9 - cs.length) * 10 ^ cs.length := by
      rw [← Nat.pow_add, Nat.sub_add_cancel hShort]
    rw [List.take_of_length_le hShort, hNine, ← Nat.mul_assoc, Nat.mul_div_cancel _ (Nat.pow_pos (by decide))]
  -- What stands behind the ninth digit is less than a unit of it, so the quotient does not see it.
  · have hDropped : ∀ c ∈ cs.drop 9, c.isDigit = true := fun c hMem => h c (List.mem_of_mem_drop hMem)
    have hTail : Nat.ofDigitChars 10 (cs.drop 9) 0 < 10 ^ (cs.drop 9).length := by
      simpa using ofDigitChars_lt_add hDropped 0
    have hTake : (cs.take 9).length = 9 := List.length_take_of_le (Nat.le_of_not_le hShort)
    have hLength : cs.length = (cs.drop 9).length + 9 := by
      rw [List.length_drop]
      omega
    have hValue : Nat.ofDigitChars 10 cs 0 =
        10 ^ (cs.drop 9).length * Nat.ofDigitChars 10 (cs.take 9) 0 + Nat.ofDigitChars 10 (cs.drop 9) 0 := by
      conv_lhs => rw [← List.take_append_drop 9 cs]
      rw [Nat.ofDigitChars_append, Nat.ofDigitChars_eq_ofDigitChars_zero]
    rw [hTake, hValue, hLength, Nat.pow_add, Nat.mul_div_mul_right _ _ (by decide),
      Nat.mul_add_div (Nat.pow_pos (by decide)), Nat.div_eq_of_lt hTail, Nat.sub_self, Nat.pow_zero, Nat.mul_one,
      Nat.add_zero]

theorem fraction_of_digits (hSome : cs ≠ []) (hDigits : ∀ c ∈ cs, c.isDigit = true)
    (hEnd : ∀ c ∈ rest.head?, c.isDigit = false) :
    fraction (cs ++ rest) = some (Nat.ofDigitChars 10 cs 0 * 1000000000 / Nat.pow 10 cs.length, rest) := by
  have hFirst : (cs.take 9).length = 9 ∨ ∀ c ∈ (cs.drop 9 ++ rest).head?, c.isDigit = false := by
    by_cases hShort : cs.length ≤ 9
    · rw [List.drop_of_length_le hShort]
      exact .inr hEnd
    · rw [List.length_take]
      exact .inl (by omega)
  have hRead : digitsFrom 0 0 9 (cs.take 9 ++ (cs.drop 9 ++ rest)) =
      (Nat.ofDigitChars 10 (cs.take 9) 0, 0 + (cs.take 9).length, cs.drop 9 ++ rest) :=
    digitsFrom_append (fun c hMem => hDigits c (List.mem_of_mem_take hMem)) (List.length_take_le 9 cs) hFirst 0 0
  have hLeast : 1 ≤ (cs.take 9).length := by
    have := List.length_pos_iff.mpr hSome
    rw [List.length_take]
    omega
  rw [← List.append_assoc, List.take_append_drop, Nat.zero_add] at hRead
  simp only [fraction, counted, hRead, if_pos hLeast, Option.bind_eq_bind, Option.bind_some, Option.pure_def,
    List.dropWhile_append_of_pos fun c hMem => hDigits c (List.mem_of_mem_drop hMem), Text.dropWhile_of_head hEnd,
    cut_to_nine hDigits]

theorem fraction_eq_none (h : ∀ c ∈ cs.head?, c.isDigit = false) : fraction cs = none := by
  rw [fraction, counted_eq_none (Nat.le_refl 1) h]
  rfl

theorem optionalFraction_of_not_point (h : ∀ c ∈ cs.head?, c ≠ '.') : optionalFraction cs = some (0, cs) := by
  unfold optionalFraction
  split
  · exact absurd rfl (h _ rfl)
  · rfl

end Scan

open Scan

/-- A date and a time of day in figures: four for the year, two for what follows, and behind a decimal point as many
as there are. Not every such date is in the calendar, nor every such time on the clock. -/
structure Fields where
  year : Fin 10000
  month : Fin 100
  day : Fin 100
  hour : Fin 100
  minute : Fin 100
  second : Fin 100
  fraction : Option (List Char)
  areDigits : ∀ cs ∈ fraction, ∀ c ∈ cs, c.isDigit = true

/-- An offset from universal time in figures, less than a day. -/
structure Shift where
  negative : Bool
  hours : Fin 24
  minutes : Fin 60
deriving DecidableEq

/-- What may stand behind date and time. -/
inductive Ending where
  | bare
  | universal
  | shifted (shift : Shift)
deriving DecidableEq

def Separator.char : Separator → Char
  | .blanks => ' '
  | .letter => 'T'

theorem Separator.joins (separator : Separator) :
    separator.char = 'T' ∨ separator.char = 't' ∨ separator.char = ' ' := by
  cases separator with
  | blanks => exact .inr (.inr rfl)
  | letter => exact .inl rfl

theorem Separator.joint_char (separator : Separator) (rest : List Char) :
    joint (separator.char :: rest) = some rest :=
  joint_eq_some_iff.mpr ⟨_, rfl, separator.joins⟩

theorem digits_not_blank (width n : Nat) : ∀ c ∈ (digits width n).toList, Text.isBlank c = false :=
  fun _ hMem => Text.isBlank_of_isDigit (isDigit_of_mem_digits hMem)

theorem mark_not_blank {mark : Char} (h : Text.isBlank mark = false) : ∀ c ∈ [mark], Text.isBlank c = false :=
  List.forall_mem_singleton.mpr h

/-- A date begins with a digit. -/
theorem head_of_date {cs rest : List Char} {date : Int × Nat × Nat}
    (h : Scan.date fullYear (number 2 2) cs = some (date, rest)) : ∃ d more, cs = d :: more ∧ d.isDigit = true := by
  obtain ⟨⟨year, next⟩, hYear, -⟩ := Option.bind_eq_some_iff.mp h
  obtain ⟨⟨n, last⟩, hNumber, -⟩ := Option.bind_eq_some_iff.mp hYear
  exact head_of_number (by decide) hNumber

namespace Shift

def text (s : Shift) : String := (if s.negative then "-" else "+") ++ digits 2 s.hours ++ ":" ++ digits 2 s.minutes

/-- The minutes that the clock is ahead of universal time. -/
def total (s : Shift) : Int :=
  if s.negative then -(s.hours * 60 + s.minutes : Nat) else (s.hours * 60 + s.minutes : Nat)

theorem total_small (s : Shift) : s.total.natAbs < 1440 := by
  have hHours := s.hours.isLt
  have hMinutes := s.minutes.isLt
  unfold total
  split <;> omega

theorem toList_text (s : Shift) : s.text.toList =
    (if s.negative then '-' else '+') :: ((digits 2 s.hours).toList ++ ':' :: (digits 2 s.minutes).toList) := by
  unfold text
  split <;> simp

theorem ofParts?_shift (s : Shift) :
    Offset.ofParts? s.negative s.hours s.minutes = some ⟨s.total, s.total_small⟩ := by
  rw [Offset.ofParts?, dif_pos ⟨s.hours.isLt, s.minutes.isLt⟩]
  cases hSign : s.negative <;> simp [total, hSign]

theorem scan_text (s : Shift) : Offset.scan s.text.toList = some (⟨s.total, s.total_small⟩, []) := by
  have hHours : ∀ rest, number 2 2 ((digits 2 s.hours).toList ++ rest) = some (↑s.hours, rest) :=
    number_digits (by decide) (Nat.lt_trans s.hours.isLt (by decide))
  have hMinutes : number 2 2 (digits 2 s.minutes).toList = some (↑s.minutes, []) := by
    rw [← List.append_nil (digits 2 s.minutes).toList]
    exact number_digits (by decide) (Nat.lt_trans s.minutes.isLt (by decide)) []
  have hParts := ofParts?_shift s
  rw [toList_text]
  unfold Offset.scan
  cases hSign : s.negative <;> rw [hSign] at hParts
  all_goals exact followed (hHours _) (followed (char_cons _ _) (followed hMinutes (followed hParts rfl)))

end Shift

namespace Ending

def text : Ending → String
  | .bare => ""
  | .universal => "Z"
  | .shifted s => s.text

def total : Ending → Int
  | .bare | .universal => 0
  | .shifted s => s.total

theorem total_small : ∀ ending : Ending, ending.total.natAbs < 1440
  | .bare | .universal => by decide
  | .shifted s => s.total_small

/-- No ending goes on with a fraction. -/
theorem head_text (ending : Ending) : ∀ c ∈ ending.text.toList.head?, c.isDigit = false ∧ c ≠ '.' := by
  intro c hHead
  cases ending with
  | bare => cases hHead
  | universal =>
      cases hHead
      decide
  | shifted s =>
      rw [text, Shift.toList_text, List.head?_cons] at hHead
      cases hHead
      cases s.negative <;> decide

theorem text_not_blank (ending : Ending) : ∀ c ∈ ending.text.toList, Text.isBlank c = false := by
  cases ending with
  | bare => exact List.forall_mem_nil _
  | universal => exact mark_not_blank rfl
  | shifted s =>
      rw [text, Shift.toList_text, List.forall_mem_cons, List.forall_mem_append, List.forall_mem_cons]
      exact ⟨by cases s.negative <;> decide, digits_not_blank _ _, by decide, digits_not_blank _ _⟩

theorem scan_text {ending : Ending} (h : ending ≠ .bare) :
    Offset.scan ending.text.toList = some (⟨ending.total, ending.total_small⟩, []) := by
  cases ending with
  | bare => exact absurd rfl h
  | universal => rfl
  | shifted s => exact s.scan_text

theorem text_eq_empty_iff {ending : Ending} : ending.text = "" ↔ ending = .bare := by
  refine ⟨fun hNone => Classical.byContradiction fun hSome => ?_, fun hBare => hBare ▸ rfl⟩
  have hScan := scan_text hSome
  rw [hNone] at hScan
  cases hScan

end Ending

namespace Fields

def dateText (f : Fields) : String := digits 4 f.year ++ "-" ++ digits 2 f.month ++ "-" ++ digits 2 f.day

def clockText (f : Fields) : String := digits 2 f.hour ++ ":" ++ digits 2 f.minute ++ ":" ++ digits 2 f.second

def fractionText (f : Fields) : String :=
  match f.fraction with
  | none => ""
  | some cs => "." ++ String.ofList cs

def spelled (f : Fields) (separator : Separator) (ending : Ending) : String :=
  f.dateText ++ String.singleton separator.char ++ f.clockText ++ f.fractionText ++ ending.text

/-- The fraction in nanoseconds; what is less than one is cut off. -/
def nano (f : Fields) : Nat :=
  match f.fraction with
  | none => 0
  | some cs => Nat.ofDigitChars 10 cs 0 * 1000000000 / Nat.pow 10 cs.length

/-- The calendar has the day, the clock has the time, and a decimal point has figures behind it. -/
def Valid (f : Fields) : Prop :=
  (1 ≤ f.month.val ∧ f.month.val ≤ 12) ∧ (1 ≤ f.day.val ∧ f.day.val ≤ daysInMonth f.year.val f.month) ∧
    f.hour.val < 24 ∧ f.minute.val < 60 ∧ f.second.val ≤ 60 ∧ f.fraction ≠ some []

instance (f : Fields) : Decidable f.Valid := inferInstanceAs (Decidable (_ ∧ _))

/-- The instant at which a clock of universal time shows the figures; second 60 is the leap second. -/
structure Shows (f : Fields) (t : Timestamp) : Prop where
  year : t.date.year = f.year.val
  month : t.date.month = f.month
  day : t.date.day = f.day
  hour : t.second / 3600 = f.hour
  minute : t.second / 60 % 60 = f.minute
  second : t.second % 60 + t.nano / 1000000000 = f.second
  nano : t.nano % 1000000000 = f.nano

def date (f : Fields) : Int × Nat × Nat := (f.year.val, f.month, f.day)

def clock (f : Fields) : Nat × Nat × Nat := (f.hour, f.minute, f.second)

/-- What the figures are read as. -/
def instant? (f : Fields) : Option Timestamp :=
  if f.fraction = some [] then none else ofParts? f.date f.clock f.nano

section Reading

variable (f : Fields) (rest : List Char)

theorem date_dateText :
    Scan.date fullYear (number 2 2) (f.dateText.toList ++ rest) = some (f.date, rest) := by
  have hText : f.dateText.toList ++ rest = (digits 4 f.year).toList ++ '-' :: ((digits 2 f.month).toList ++
      '-' :: ((digits 2 f.day).toList ++ rest)) := by
    simp [dateText]
  have hYear : ∀ rest, fullYear ((digits 4 f.year).toList ++ rest) = some ((f.year.val : Int), rest) := fun rest =>
    followed (number_digits (by decide) f.year.isLt rest) rfl
  rw [hText]
  exact followed (hYear _) (followed (char_cons _ _) (followed (number_digits (by decide) f.month.isLt _)
    (followed (char_cons _ _) (followed (number_digits (by decide) f.day.isLt _) rfl))))

theorem time_clockText :
    Scan.time (number 2 2) (f.clockText.toList ++ rest) = some (f.clock, rest) := by
  have hText : f.clockText.toList ++ rest = (digits 2 f.hour).toList ++ ':' :: ((digits 2 f.minute).toList ++
      ':' :: ((digits 2 f.second).toList ++ rest)) := by
    simp [clockText]
  rw [hText]
  exact followed (number_digits (by decide) f.hour.isLt _) (followed (char_cons _ _)
    (followed (number_digits (by decide) f.minute.isLt _) (followed (char_cons _ _)
      (followed (number_digits (by decide) f.second.isLt _) rfl))))

theorem optionalFraction_fractionText (ending : Ending) :
    optionalFraction (f.fractionText.toList ++ ending.text.toList) =
      if f.fraction = some [] then none else some (f.nano, ending.text.toList) := by
  have hEnd := ending.head_text
  unfold fractionText nano
  cases hFraction : f.fraction with
  | none => exact optionalFraction_of_not_point fun c hc => (hEnd c hc).2
  | some cs =>
      have hText : ("." ++ String.ofList cs).toList ++ ending.text.toList = '.' :: (cs ++ ending.text.toList) := by
        simp
      dsimp only
      rw [hText, optionalFraction]
      by_cases hNone : cs = []
      · rw [hNone, if_pos rfl]
        exact fraction_eq_none fun c hc => (hEnd c hc).1
      · rw [if_neg (by simpa using hNone)]
        exact fraction_of_digits hNone (f.areDigits cs hFraction) fun c hc => (hEnd c hc).1

end Reading

section Meaning

variable {f : Fields} {t : Timestamp}

theorem date_of_ofParts? {year : Int} {month day : Nat} {d : Date} (h : Date.ofParts? year month day = some d) :
    (d.year = year ∧ d.month = month ∧ d.day = day) ∧ (1 ≤ month ∧ month ≤ 12) ∧
      1 ≤ day ∧ day ≤ daysInMonth year month := by
  rw [Date.ofParts?] at h
  split at h
  · rename_i hParts
    cases h
    exact ⟨⟨rfl, rfl, rfl⟩, hParts⟩
  · cases h

/-- The clock shows the time of day that was read, a leap second as second 60. -/
theorem clock_of_ofClock? {d : Date} {hour minute second nano : Nat} (h : ofClock? d hour minute second nano = some t) :
    (hour < 24 ∧ minute < 60 ∧ second ≤ 60) ∧ t.date = d ∧ t.second / 3600 = hour ∧ t.second / 60 % 60 = minute ∧
      t.second % 60 + t.nano / 1000000000 = second ∧ t.nano % 1000000000 = nano := by
  rw [ofClock?] at h
  split at h
  · rename_i hParts
    refine ⟨⟨hParts.1, hParts.2.1, hParts.2.2.1⟩, ?_⟩
    split at h
    all_goals
      cases h
      dsimp only
      refine ⟨rfl, ?_, ?_, ?_, ?_⟩ <;> omega
  · cases h

/-- The date and the time of day are read if they are valid, as the instant that shows them. -/
theorem instant?_eq_some_iff : f.instant? = some t ↔ f.Valid ∧ f.Shows t := by
  constructor
  · intro h
    rw [instant?] at h
    split at h
    · cases h
    · rename_i hFraction
      obtain ⟨d, hDate, hClock⟩ := Option.bind_eq_some_iff.mp h
      obtain ⟨⟨hYear, hMonth, hDay⟩, hMonths, hDays⟩ := date_of_ofParts? hDate
      obtain ⟨⟨hHours, hMinutes, hSeconds⟩, rfl, hHour, hMinute, hSecond, hNano⟩ := clock_of_ofClock? hClock
      exact ⟨⟨hMonths, hDays, hHours, hMinutes, hSeconds, hFraction⟩,
        ⟨hYear, hMonth, hDay, hHour, hMinute, hSecond, hNano⟩⟩
  · rintro ⟨⟨hMonth, hDay, hHour, hMinute, hSecond, hFraction⟩, hShows⟩
    rw [instant?, if_neg hFraction]
    have hDate : Date.ofParts? f.date.1 f.date.2.1 f.date.2.2 = some t.date := by
      rw [date, ← hShows.year, ← hShows.month, ← hShows.day]
      exact ofParts?_date t.date
    have hClock : ofClock? t.date f.clock.1 f.clock.2.1 f.clock.2.2 f.nano = some t := by
      rw [clock, ← hShows.hour, ← hShows.minute, ← hShows.second, ← hShows.nano]
      exact ofClock?_parts t
    rw [ofParts?, hDate]
    exact hClock

theorem nano_lt (f : Fields) : f.nano < 1000000000 := by
  unfold nano
  cases hFraction : f.fraction with
  | none => decide
  | some cs =>
      have hValue := ofDigitChars_lt_add (f.areDigits cs hFraction) 0
      rw [Nat.zero_add, Nat.one_mul] at hValue
      exact Nat.div_lt_of_lt_mul (Nat.mul_lt_mul_of_pos_right hValue (by decide : 0 < 1000000000))

theorem exists_instant (h : f.Valid) : ∃ t, f.instant? = some t := by
  obtain ⟨hMonth, hDay, hHour, hMinute, hSecond, hFraction⟩ := h
  obtain ⟨d, hDate⟩ : ∃ d, Date.ofParts? f.date.1 f.date.2.1 f.date.2.2 = some d := ⟨_, dif_pos ⟨hMonth, hDay⟩⟩
  have hClock : ∃ t, ofClock? d f.clock.1 f.clock.2.1 f.clock.2.2 f.nano = some t := by
    rw [ofClock?, dif_pos ⟨hHour, hMinute, hSecond, f.nano_lt⟩]
    split <;> exact ⟨_, rfl⟩
  rw [instant?, if_neg hFraction, ofParts?, hDate]
  exact hClock

/-- No other instant shows what is read as this one. -/
theorem shows_iff {v : Timestamp} (h : f.instant? = some t) : f.Shows v ↔ v = t := by
  obtain ⟨hValid, hShown⟩ := instant?_eq_some_iff.mp h
  constructor
  · intro hShows
    exact Option.some.inj ((instant?_eq_some_iff.mpr ⟨hValid, hShows⟩).symm.trans h)
  · rintro rfl
    exact hShown

theorem instant?_eq_none (h : ¬f.Valid) : f.instant? = none :=
  Option.eq_none_iff_forall_ne_some.mpr fun _ hSome => h (instant?_eq_some_iff.mp hSome).1

end Meaning

section Forms

variable (f : Fields) (separator : Separator) (ending : Ending)

/-- The instant that is meant where the figures are those of a clock with an offset. -/
def meant? : Option Timestamp := f.instant?.map fun t => t.behind ending.total ending.total_small

theorem meant?_bare : f.meant? .bare = f.instant? := by
  unfold meant?
  cases f.instant? with
  | none => rfl
  | some t => exact congrArg some (behind_zero t)

theorem meant?_universal : f.meant? .universal = f.instant? := f.meant?_bare

theorem toList_spelled : (f.spelled separator ending).toList =
    f.dateText.toList ++ separator.char :: (f.clockText.toList ++ (f.fractionText.toList ++ ending.text.toList)) := by
  simp [spelled]

theorem ofInternet?_spelled (hEnding : ending ≠ .bare) :
    ofInternet? (f.spelled separator ending).toList = f.meant? ending := by
  rw [toList_spelled, ofInternet?_eq]
  simp only [date_dateText, Separator.joint_char, time_clockText, optionalFraction_fractionText, Option.bind_some,
    meant?, instant?]
  split
  · rfl
  · simp only [Option.bind_some, Ending.scan_text hEnding, List.isEmpty_nil, if_true]

theorem ofInternet?_bare : ofInternet? (f.spelled separator .bare).toList = none := by
  rw [toList_spelled, ofInternet?_eq]
  simp only [date_dateText, Separator.joint_char, time_clockText, optionalFraction_fractionText, Option.bind_some]
  split <;> rfl

theorem yearAllowed_date : yearAllowed f.date.1 = true := by
  have hYear := f.year.isLt
  refine Bool.and_eq_true_iff.mpr ⟨decide_eq_true ?_, decide_eq_true ?_⟩ <;> dsimp only [date] <;> omega

theorem ofNaive?_spelled (other : Separator) : ofNaive? other true (f.spelled separator ending).toList =
    if other.takes separator.char ∧ ending = .bare then f.instant? else none := by
  have hDate := fun rest => date_extends freeYear_extends shortField_extends _ _ _ (f.date_dateText rest)
  have hTime := fun rest => @separator_time other _ _ _ _ separator.joins (f.time_clockText rest)
  rw [toList_spelled, ofNaive?_eq]
  simp only [hDate, hTime, Option.bind_some]
  by_cases hTakes : other.takes separator.char = true
  · simp only [hTakes, if_true, Option.bind_some, optionalFraction_fractionText, true_and, instant?]
    split
    · simp
    · simp [Ending.text_eq_empty_iff, yearAllowed_date]
  · simp [hTakes]

/-- Every form that admits a spelling reads it as what is meant. -/
theorem read_spelled {form : Form} {t : Timestamp} (h : form.read (f.spelled separator ending).toList = some t) :
    f.meant? ending = some t := by
  cases form with
  | internet =>
      by_cases hBare : ending = .bare
      · subst hBare
        cases (f.ofInternet?_bare separator).symm.trans h
      · exact (f.ofInternet?_spelled separator ending hBare).symm.trans h
  | naive other mayHaveFraction =>
      -- What is read without a fraction is read with one too, so one computation is enough for both.
      have hRead := ofNaive?_fraction h
      rw [ofNaive?_spelled] at hRead
      split at hRead
      · rename_i hBare
        rw [hBare.2, meant?_bare, hRead]
      · cases hRead

theorem exists_read {t : Timestamp} (h : f.meant? ending = some t) :
    ∃ form : Form, form.read (f.spelled separator ending).toList = some t := by
  by_cases hBare : ending = .bare
  · subst hBare
    refine ⟨.naive separator true, ?_⟩
    have hTakes : separator.takes separator.char = true := by cases separator <;> rfl
    rw [meant?_bare] at h
    exact (f.ofNaive?_spelled separator .bare separator).trans ((if_pos ⟨hTakes, rfl⟩).trans h)
  · exact ⟨.internet, (f.ofInternet?_spelled separator ending hBare).trans h⟩

theorem clockText_not_blank : ∀ c ∈ f.clockText.toList, Text.isBlank c = false := by
  simp only [clockText, String.toList_append, List.forall_mem_append]
  exact ⟨⟨⟨⟨digits_not_blank _ _, mark_not_blank rfl⟩, digits_not_blank _ _⟩, mark_not_blank rfl⟩,
    digits_not_blank _ _⟩

theorem fractionText_not_blank : ∀ c ∈ f.fractionText.toList, Text.isBlank c = false := by
  unfold fractionText
  cases hFraction : f.fraction with
  | none => exact List.forall_mem_nil _
  | some cs =>
      simp only [String.toList_append, List.forall_mem_append, String.toList_ofList]
      exact ⟨mark_not_blank rfl, fun c hMem => Text.isBlank_of_isDigit (f.areDigits cs hFraction c hMem)⟩

/-- A spelling begins with a figure and has nothing blank behind its time of day. -/
theorem trimChars_spelled :
    Text.trimChars (f.spelled separator ending).toList = (f.spelled separator ending).toList := by
  have hBehind : ∀ c ∈ f.clockText.toList ++ (f.fractionText.toList ++ ending.text.toList), Text.isBlank c = false :=
    List.forall_mem_append.mpr ⟨f.clockText_not_blank,
      List.forall_mem_append.mpr ⟨f.fractionText_not_blank, ending.text_not_blank⟩⟩
  have hClock : f.clockText.toList ++ (f.fractionText.toList ++ ending.text.toList) ≠ [] := by
    simp [clockText]
  rw [toList_spelled]
  refine Text.trimChars_of_ends (fun c hFirst => ?_) fun c hLast => ?_
  · obtain ⟨d, more, hSame, hDigit⟩ := head_of_date (f.date_dateText
      (separator.char :: (f.clockText.toList ++ (f.fractionText.toList ++ ending.text.toList))))
    rw [hSame] at hFirst
    cases hFirst
    exact Text.isBlank_of_isDigit hDigit
  · rw [List.getLast?_append_of_ne_nil _ (List.cons_ne_nil _ _), ← List.singleton_append,
      List.getLast?_append_of_ne_nil _ hClock] at hLast
    exact hBehind c (List.mem_of_getLast? hLast)

end Forms

end Fields

/-- A text is read as an instant when one of the forms reads it so. Which comes first does not matter. -/
theorem parse_eq_some_iff {text : String} {t : Timestamp} :
    parse text = some t ↔ ∃ form : Form, form.read (Text.trimChars text.toList) = some t := by
  constructor
  · intro h
    obtain ⟨form, -, hRead⟩ := List.exists_of_findSome?_eq_some h
    exact ⟨form, hRead⟩
  · rintro ⟨form, hRead⟩
    have hMem : form ∈ forms := by
      cases form with
      | internet => exact List.mem_cons_self
      | naive separator mayHaveFraction => cases separator <;> cases mayHaveFraction <;> simp [forms]
    have hSome : (parse text).isSome = true := List.findSome?_isSome_iff.mpr ⟨form, hMem, by rw [hRead]; rfl⟩
    -- An earlier form may be the one that is taken, and then it reads the same.
    obtain ⟨u, hParse⟩ := Option.isSome_iff_exists.mp hSome
    obtain ⟨first, -, hFirst⟩ := List.exists_of_findSome?_eq_some hParse
    rw [hParse, forms_agree hRead hFirst]

theorem parse_spelled (f : Fields) (separator : Separator) (ending : Ending) {front back : String}
    (hFront : Text.allBlank front = true) (hBack : Text.allBlank back = true) :
    parse (front ++ f.spelled separator ending ++ back) = f.meant? ending := by
  have hTrim : Text.trimChars (front ++ f.spelled separator ending ++ back).toList =
      (f.spelled separator ending).toList := by
    rw [String.toList_append, String.toList_append,
      Text.trimChars_append (List.all_eq_true.mp hFront) (List.all_eq_true.mp hBack), f.trimChars_spelled]
  refine Option.ext fun t => ?_
  rw [parse_eq_some_iff, hTrim]
  exact ⟨fun ⟨_, hRead⟩ => f.read_spelled separator ending hRead, f.exists_read separator ending⟩

/-- However a date and a time of day are spelled, and whatever white space is around them, they are the one instant that
shows them, or none if they are not valid; an offset moves it by its minutes. No two forms read a text in two ways. -/
theorem spellings_agree (f : Fields) {front back : String} (hFront : Text.allBlank front = true)
    (hBack : Text.allBlank back = true) :
    (¬f.Valid → ∀ separator ending, parse (front ++ f.spelled separator ending ++ back) = none) ∧
    (f.Valid → ∃ t, (∀ v, f.Shows v ↔ v = t) ∧ ∀ separator,
      parse (front ++ f.spelled separator .bare ++ back) = some t ∧
      parse (front ++ f.spelled separator .universal ++ back) = some t ∧
      ∀ shift, ∃ u, parse (front ++ f.spelled separator (.shifted shift) ++ back) = some u ∧
        ∀ v, v.moment = t.moment - 60 * shift.total ∧ v.nano = t.nano ↔ v = u) ∧
    ∀ (first second : Form) (cs : List Char) (t u : Timestamp),
      first.read cs = some t → second.read cs = some u → u = t := by
  have hParse : ∀ separator ending, parse (front ++ f.spelled separator ending ++ back) = f.meant? ending :=
    fun separator ending => parse_spelled f separator ending hFront hBack
  refine ⟨fun hInvalid separator ending => ?_, fun hValid => ?_, fun first second cs t u => forms_agree⟩
  · rw [hParse, Fields.meant?, Fields.instant?_eq_none hInvalid, Option.map_none]
  · obtain ⟨t, hInstant⟩ := Fields.exists_instant hValid
    refine ⟨t, fun v => Fields.shows_iff hInstant, fun separator => ⟨?_, ?_, fun shift => ?_⟩⟩
    · rw [hParse, Fields.meant?_bare, hInstant]
    · rw [hParse, Fields.meant?_universal, hInstant]
    · refine ⟨t.behind shift.total shift.total_small, ?_, fun v => eq_behind_iff.symm⟩
      rw [hParse, Fields.meant?, hInstant]
      rfl

/-- The last second of a year, a leap second with more figures than there are nanoseconds. -/
def Fields.yearEnd : Fields := ⟨2023, 12, 31, 23, 59, 60, some "1234567899".toList, by simp⟩

/-- The clock that is an hour and a half behind shows the last second of a year when it is past in universal time. -/
theorem spellings_agree_yearEnd :
    Text.allBlank "\t" = true ∧ Text.allBlank "\u3000\n" = true ∧ Fields.yearEnd.nano = 123456789 ∧
    ∃ t, (∀ v, Fields.yearEnd.Shows v ↔ v = t) ∧
      parse "\t2023-12-31 23:59:60.1234567899\u3000\n" = some t ∧
      parse "\t2023-12-31T23:59:60.1234567899Z\u3000\n" = some t ∧
      ∃ u, parse "\t2023-12-31T23:59:60.1234567899-01:30\u3000\n" = some u ∧
        u.moment = t.moment + 5400 ∧ u.nano = t.nano := by
  have hFront : Text.allBlank "\t" = true := by decide
  have hBack : Text.allBlank "\u3000\n" = true := by decide
  obtain ⟨t, hShows, hSpelled⟩ := (spellings_agree Fields.yearEnd hFront hBack).2.1 (by decide)
  obtain ⟨u, hShifted, hLater⟩ := (hSpelled .letter).2.2 ⟨true, 1, 30⟩
  obtain ⟨hMoment, hNano⟩ := (hLater u).mpr rfl
  refine ⟨hFront, hBack, by decide, t, hShows, (hSpelled .blanks).1, (hSpelled .letter).2.1, u, hShifted, ?_, hNano⟩
  rw [hMoment]
  exact congrArg (t.moment + ·) rfl

end AuditDesk.Timestamp
