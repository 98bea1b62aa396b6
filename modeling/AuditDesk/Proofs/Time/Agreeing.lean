import AuditDesk.Proofs.Time.Written

/-! No text is read in two ways. A date and a time of day in fixed widths are read alike where widths are free; what
tells the forms apart is what stands between the two and whether an offset follows. -/
namespace AuditDesk.Timestamp

namespace Scan

variable {α : Type}

/-- What the one reader reads, the other reads in the same way. -/
def Extends (loose strict : Scan α) : Prop := ∀ cs a rest, strict cs = some (a, rest) → loose cs = some (a, rest)

/-- A year, a month and a day with dashes between them. -/
def date (year : Scan Int) (field : Scan Nat) : Scan (Int × Nat × Nat) := fun cs => do
  let (year, cs) ← year cs
  let cs ← char '-' cs
  let (month, cs) ← field cs
  let cs ← char '-' cs
  let (day, cs) ← field cs
  return ((year, month, day), cs)

/-- An hour, a minute and a second with colons between them. -/
def time (field : Scan Nat) : Scan (Nat × Nat × Nat) := fun cs => do
  let (hour, cs) ← field cs
  let cs ← char ':' cs
  let (minute, cs) ← field cs
  let cs ← char ':' cs
  let (second, cs) ← field cs
  return ((hour, minute, second), cs)

theorem date_bind (year : Scan Int) (field : Scan Nat) (cs : List Char)
    (next : (Int × Nat × Nat) × List Char → Option α) : (date year field cs).bind next =
      (year cs).bind fun (year, cs) => (char '-' cs).bind fun cs =>
        (field cs).bind fun (month, cs) => (char '-' cs).bind fun cs =>
          (field cs).bind fun (day, cs) => next ((year, month, day), cs) := by
  iterate 5 refine (Option.bind_assoc _ _ _).trans (Option.bind_congr fun _ _ => ?_)
  rfl

theorem time_bind (field : Scan Nat) (cs : List Char) (next : (Nat × Nat × Nat) × List Char → Option α) :
    (time field cs).bind next =
      (field cs).bind fun (hour, cs) => (char ':' cs).bind fun cs =>
        (field cs).bind fun (minute, cs) => (char ':' cs).bind fun cs =>
          (field cs).bind fun (second, cs) => next ((hour, minute, second), cs) := by
  iterate 5 refine (Option.bind_assoc _ _ _).trans (Option.bind_congr fun _ _ => ?_)
  rfl

/-- A year of four digits. -/
def fullYear : Scan Int := fun cs => do
  let (year, cs) ← number 4 4 cs
  return ((year : Int), cs)

/-- A year with or without a sign, after white space. -/
def freeYear : Scan Int := fun cs => signedYear (blanks cs)

/-- What may stand between date and time where an offset follows. -/
def joint : List Char → Option (List Char)
  | c :: rest => if c = 'T' || c = 't' || c = ' ' then some rest else none
  | [] => none

end Scan

open Scan

/-- The time of day behind what parts it from the date. -/
def Separator.time (separator : Separator) : Scan (Nat × Nat × Nat) := fun cs =>
  (separator.drop cs).bind (Scan.time shortField)

/-- The instant of a date and a time of day, if there are such. -/
def ofParts? (date : Int × Nat × Nat) (time : Nat × Nat × Nat) (nano : Nat) : Option Timestamp :=
  (Date.ofParts? date.1 date.2.1 date.2.2).bind fun date => ofClock? date time.1 time.2.1 time.2.2 nano

theorem ofInternet?_eq (cs : List Char) : ofInternet? cs =
    (Scan.date fullYear (number 2 2) cs).bind fun (date, cs) =>
      (joint cs).bind fun cs =>
        (Scan.time (number 2 2) cs).bind fun (time, cs) =>
          (optionalFraction cs).bind fun (nano, cs) =>
            (Offset.scan cs).bind fun (offset, cs) =>
              if cs.isEmpty then (ofParts? date time nano).map fun shown => shown.behind offset.minutes offset.small
              else none := by
  rw [date_bind]
  refine Eq.trans ?_ (Option.bind_assoc _ _ _).symm
  iterate 4 refine Option.bind_congr fun _ _ => ?_
  refine Option.bind_congr ?_
  rintro ⟨day, cs⟩ -
  -- The two sides differ in what follows the date: there a case comes before the bind, or behind it.
  cases cs with
  | nil => rfl
  | cons c cs =>
      dsimp only [joint]
      split
      · rw [Option.bind_some, time_bind]
        refine (Option.bind_some _ _).trans ?_
        iterate 7 refine Option.bind_congr fun _ _ => ?_
        refine ite_congr rfl (fun _ => ?_) fun _ => rfl
        refine Eq.trans (Option.bind_congr fun _ _ => ?_) (Option.map_bind ..).symm
        exact Option.map_eq_bind.symm
      · rfl

theorem ofNaive?_eq (separator : Separator) (mayHaveFraction : Bool) (cs : List Char) :
    ofNaive? separator mayHaveFraction cs =
      (Scan.date freeYear shortField cs).bind fun (date, cs) =>
        (separator.time cs).bind fun (time, cs) =>
          (if mayHaveFraction then optionalFraction cs else some (0, cs)).bind fun (nano, cs) =>
            if cs.isEmpty && yearAllowed date.1 then ofParts? date time nano else none := by
  rw [date_bind]
  iterate 5 refine Option.bind_congr fun _ _ => ?_
  refine Eq.trans ?_ (Option.bind_assoc _ _ _).symm
  refine Option.bind_congr fun _ _ => ?_
  rw [time_bind]
  cases mayHaveFraction <;> rfl

section Fields

variable {least most : Nat} {cs rest : List Char} {n : Nat}

theorem counted_eq_none (hLeast : 1 ≤ least) (h : ∀ c ∈ cs.head?, c.isDigit = false) :
    counted least most cs = none := by
  have hNone : digitsFrom 0 0 most ([] ++ cs) = (0, 0, cs) :=
    digitsFrom_append (List.forall_mem_nil _) (Nat.zero_le most) (.inr h) 0 0
  rw [List.nil_append] at hNone
  simp only [counted, hNone, if_neg (Nat.not_le_of_lt hLeast)]

theorem number_eq_none (hLeast : 1 ≤ least) (h : ∀ c ∈ cs.head?, c.isDigit = false) :
    number least most cs = none := by
  rw [number, counted_eq_none hLeast h]
  rfl

/-- A number begins with a digit. -/
theorem head_of_number (hLeast : 1 ≤ least) (h : number least most cs = some (n, rest)) :
    ∃ c more, cs = c :: more ∧ c.isDigit = true := by
  cases cs with
  | nil =>
      rw [number_eq_none hLeast fun c hc => by cases hc] at h
      cases h
  | cons c more =>
      refine ⟨c, more, rfl, Classical.byContradiction fun hOther => ?_⟩
      rw [number_eq_none hLeast fun d hd => by cases hd; exact Bool.eq_false_iff.mpr hOther] at h
      cases h

theorem number_of_less {fewer : Nat} (hFewer : fewer ≤ least) (h : number least most cs = some (n, rest)) :
    number fewer most cs = some (n, rest) := by
  obtain ⟨⟨⟨value, count⟩, next⟩, hCounted, h⟩ := Option.bind_eq_some_iff.mp h
  simp only [counted] at hCounted
  split at hCounted
  · rename_i hLeast
    simp only [number, counted, if_pos (Nat.le_trans hFewer hLeast), hCounted]
    exact h
  · cases hCounted

theorem blanks_of_digit {c : Char} (h : c.isDigit = true) (rest : List Char) : blanks (c :: rest) = c :: rest :=
  Text.dropWhile_of_head fun d hHead => by cases hHead; exact Text.isBlank_of_isDigit h

theorem shortField_extends : Extends shortField (number 2 2) := by
  intro cs n rest h
  obtain ⟨c, more, rfl, hDigit⟩ := head_of_number (by decide) h
  rw [shortField, blanks_of_digit hDigit]
  exact number_of_less (by decide) h

theorem freeYear_extends : Extends freeYear fullYear := by
  intro cs year rest h
  obtain ⟨⟨n, next⟩, hNumber, h⟩ := Option.bind_eq_some_iff.mp h
  cases h
  obtain ⟨c, more, rfl, hDigit⟩ := head_of_number (by decide) hNumber
  rw [freeYear, blanks_of_digit hDigit]
  unfold signedYear
  split
  · rename_i hSame
    cases hSame
    exact absurd hDigit (by decide)
  · rename_i hSame
    cases hSame
    exact absurd hDigit (by decide)
  · rw [number_of_less (by decide) hNumber]
    rfl

end Fields

section Parts

variable {year strictYear : Scan Int} {field strictField : Scan Nat}

theorem date_extends (hYear : Extends year strictYear) (hField : Extends field strictField) :
    Extends (Scan.date year field) (Scan.date strictYear strictField) := by
  intro cs a rest h
  obtain ⟨⟨y, cs⟩, hFirst, h⟩ := Option.bind_eq_some_iff.mp h
  obtain ⟨cs, hDash, h⟩ := Option.bind_eq_some_iff.mp h
  obtain ⟨⟨m, cs⟩, hSecond, h⟩ := Option.bind_eq_some_iff.mp h
  obtain ⟨cs, hDash', h⟩ := Option.bind_eq_some_iff.mp h
  obtain ⟨⟨d, cs⟩, hThird, h⟩ := Option.bind_eq_some_iff.mp h
  exact followed (hYear _ _ _ hFirst) (followed hDash (followed (hField _ _ _ hSecond)
    (followed hDash' (followed (hField _ _ _ hThird) h))))

theorem time_extends (hField : Extends field strictField) : Extends (Scan.time field) (Scan.time strictField) := by
  intro cs a rest h
  obtain ⟨⟨hour, cs⟩, hFirst, h⟩ := Option.bind_eq_some_iff.mp h
  obtain ⟨cs, hColon, h⟩ := Option.bind_eq_some_iff.mp h
  obtain ⟨⟨minute, cs⟩, hSecond, h⟩ := Option.bind_eq_some_iff.mp h
  obtain ⟨cs, hColon', h⟩ := Option.bind_eq_some_iff.mp h
  obtain ⟨⟨second, cs⟩, hThird, h⟩ := Option.bind_eq_some_iff.mp h
  exact followed (hField _ _ _ hFirst) (followed hColon (followed (hField _ _ _ hSecond)
    (followed hColon' (followed (hField _ _ _ hThird) h))))

end Parts

section Separators

variable {separator : Separator} {c : Char} {cs rest : List Char} {time : Nat × Nat × Nat}

/-- The separator that a character between date and time is for. -/
def Separator.takes : Separator → Char → Bool
  | .blanks, c => c = ' '
  | .letter, c => c = 'T'

theorem joint_eq_some_iff : joint cs = some rest ↔ ∃ c, cs = c :: rest ∧ (c = 'T' ∨ c = 't' ∨ c = ' ') := by
  cases cs with
  | nil => simp [joint]
  | cons d cs =>
      constructor
      · intro h
        rw [joint] at h
        split at h
        · rename_i hJoint
          cases h
          exact ⟨d, rfl, by simpa [or_assoc] using hJoint⟩
        · cases h
      · rintro ⟨c, hSame, hJoint⟩
        cases hSame
        exact if_pos (by simpa [or_assoc] using hJoint)

/-- A time of day begins with a digit. -/
theorem head_of_time (h : Scan.time (number 2 2) cs = some (time, rest)) :
    ∃ d more, cs = d :: more ∧ d.isDigit = true := by
  obtain ⟨⟨hour, next⟩, hHour, -⟩ := Option.bind_eq_some_iff.mp h
  exact head_of_number (by decide) hHour

theorem time_eq_none (hDigit : c.isDigit = false) (hBlank : Text.isBlank c = false) (cs : List Char) :
    Scan.time shortField (c :: cs) = none := by
  have hStays : blanks (c :: cs) = c :: cs := Text.dropWhile_of_head fun d hHead => by cases hHead; exact hBlank
  have hHour : shortField (c :: cs) = none := by
    rw [shortField, hStays]
    exact number_eq_none (by decide) fun d hd => by cases hd; exact hDigit
  rw [Scan.time, hHour]
  rfl

/-- Behind one character that may part it from the date, a time of day is read where that is the separator. -/
theorem separator_time (hJoint : c = 'T' ∨ c = 't' ∨ c = ' ')
    (h : Scan.time (number 2 2) cs = some (time, rest)) :
    separator.time (c :: cs) = if separator.takes c then some (time, rest) else none := by
  have hRead : Scan.time shortField cs = some (time, rest) := time_extends shortField_extends _ _ _ h
  cases separator with
  | blanks =>
      rw [Separator.time, Separator.drop, Option.bind_some]
      rcases hJoint with rfl | rfl | rfl
      · exact time_eq_none rfl rfl cs
      · exact time_eq_none rfl rfl cs
      · obtain ⟨d, more, rfl, hDigit⟩ := head_of_time h
        exact (congrArg (Scan.time shortField) (blanks_of_digit hDigit more)).trans hRead
  | letter =>
      rcases hJoint with rfl | rfl | rfl
      · exact hRead
      · rfl
      · rfl

/-- No text goes on behind a date in both ways: a letter is no white space and begins no time. -/
theorem letter_time_eq_none (h : Separator.blanks.time cs = some (time, rest)) : Separator.letter.time cs = none := by
  cases cs with
  | nil => rfl
  | cons c cs =>
      by_cases hLetter : c = 'T'
      · subst hLetter
        have hNone : Scan.time shortField ('T' :: cs) = none := time_eq_none rfl (by decide) cs
        have hSome : Scan.time shortField ('T' :: cs) = some (time, rest) := h
        rw [hNone] at hSome
        cases hSome
      · have hDrop : Separator.letter.drop (c :: cs) = none := if_neg hLetter
        rw [Separator.time, hDrop]
        rfl

end Separators

section Agreement

variable {cs : List Char} {t u : Timestamp} {separator : Separator} {mayHaveFraction : Bool}

/-- Where an offset follows, the forms without one leave it unread. -/
theorem ofNaive?_of_internet (h : ofInternet? cs = some t) : ofNaive? separator mayHaveFraction cs = none := by
  rw [ofInternet?_eq] at h
  obtain ⟨⟨date, _⟩, hDate, h⟩ := Option.bind_eq_some_iff.mp h
  obtain ⟨_, hJoint, h⟩ := Option.bind_eq_some_iff.mp h
  obtain ⟨⟨time, behind⟩, hTime, h⟩ := Option.bind_eq_some_iff.mp h
  obtain ⟨⟨nano, last⟩, hFraction, h⟩ := Option.bind_eq_some_iff.mp h
  obtain ⟨_, hOffset, -⟩ := Option.bind_eq_some_iff.mp h
  obtain ⟨c, rfl, hBetween⟩ := joint_eq_some_iff.mp hJoint
  have hLast : last ≠ [] := by
    rintro rfl
    cases hOffset
  have hBehind : behind ≠ [] := by
    rintro rfl
    cases hFraction
    exact hLast rfl
  have hRead := date_extends freeYear_extends shortField_extends _ _ _ hDate
  simp only [ofNaive?_eq, hRead, Option.bind_some, separator_time hBetween hTime]
  split
  · cases mayHaveFraction with
    | true => simp [hFraction, hLast]
    | false => simp [hBehind]
  · rfl

/-- What is read without a fraction is read where there may be one. -/
theorem ofNaive?_fraction (h : ofNaive? separator mayHaveFraction cs = some t) :
    ofNaive? separator true cs = some t := by
  cases mayHaveFraction with
  | true => exact h
  | false =>
      rw [ofNaive?_eq] at h ⊢
      obtain ⟨⟨date, _⟩, hDate, h⟩ := Option.bind_eq_some_iff.mp h
      obtain ⟨⟨time, behind⟩, hTime, h⟩ := Option.bind_eq_some_iff.mp h
      simp only [hDate, Option.bind_some, hTime]
      cases behind with
      | nil => exact h
      | cons => cases h

theorem ofNaive?_of_blanks (h : ofNaive? .blanks mayHaveFraction cs = some t) (other : Bool) :
    ofNaive? .letter other cs = none := by
  rw [ofNaive?_eq] at h ⊢
  obtain ⟨⟨date, _⟩, hDate, h⟩ := Option.bind_eq_some_iff.mp h
  obtain ⟨⟨time, behind⟩, hTime, -⟩ := Option.bind_eq_some_iff.mp h
  simp only [hDate, Option.bind_some, letter_time_eq_none hTime]
  rfl

/-- A text that two forms admit is read by them as the same instant. -/
theorem forms_agree {first second : Form} (hFirst : first.read cs = some t) (hSecond : second.read cs = some u) :
    u = t := by
  cases first with
  | internet =>
      cases second with
      | internet => exact Option.some.inj (hSecond.symm.trans hFirst)
      | naive => cases (ofNaive?_of_internet hFirst).symm.trans hSecond
  | naive separator =>
      cases second with
      | internet => cases (ofNaive?_of_internet hSecond).symm.trans hFirst
      | naive other =>
          cases separator <;> cases other
          case blanks.letter => cases (ofNaive?_of_blanks hFirst _).symm.trans hSecond
          case letter.blanks => cases (ofNaive?_of_blanks hSecond _).symm.trans hFirst
          all_goals exact Option.some.inj ((ofNaive?_fraction hSecond).symm.trans (ofNaive?_fraction hFirst))

end Agreement

end AuditDesk.Timestamp
