import AuditDesk.Proofs.Time.Written

/-! A timestamp whose year four digits cannot show is not read back from its written form: the internet
form has no sign in front of a year, and the forms that have one leave the letter at the end unread. -/
namespace AuditDesk.Timestamp

/-- Four digits show the year. -/
def fourDigits (t : Timestamp) : Bool := 0 ≤ t.date.year && t.date.year ≤ 9999

theorem fourDigits_iff {t : Timestamp} : t.fourDigits = true ↔ 0 ≤ t.date.year ∧ t.date.year ≤ 9999 := by
  simp [fourDigits]

namespace Scan

variable {α β : Type}

/-- The reader leaves the letter `Z` to others. -/
def Spares (r : Scan α) : Prop := ∀ cs a rest, r cs = some (a, rest) → 'Z' ∈ cs → 'Z' ∈ rest

theorem mem_dropWhile {p : Char → Bool} (hOther : p 'Z' = false) {cs : List Char} (h : 'Z' ∈ cs) :
    'Z' ∈ cs.dropWhile p := by
  induction cs with
  | nil => exact h
  | cons c cs ih =>
      rw [List.dropWhile_cons]
      split
      · rename_i hDropped
        rcases List.mem_cons.mp h with rfl | h
        · rw [hOther] at hDropped
          cases hDropped
        · exact ih h
      · exact h

theorem mem_blanks {cs : List Char} (h : 'Z' ∈ cs) : 'Z' ∈ blanks cs := mem_dropWhile rfl h

theorem mem_digitsFrom (value count most : Nat) {cs : List Char} (h : 'Z' ∈ cs) :
    'Z' ∈ (digitsFrom value count most cs).2.2 := by
  induction most generalizing value count cs with
  | zero => cases cs <;> exact h
  | succ most ih =>
      cases cs with
      | nil => exact h
      | cons c cs =>
          rw [digitsFrom]
          split
          · rename_i hDigit
            rcases List.mem_cons.mp h with rfl | h
            · cases hDigit
            · exact ih _ _ h
          · exact h

theorem spares_counted (least most : Nat) : Spares (counted least most) := by
  intro cs a rest h hMem
  have hRest := mem_digitsFrom 0 0 most hMem
  simp only [counted] at h
  split at h
  · cases h
    exact hRest
  · cases h

theorem spares_number (least most : Nat) : Spares (number least most) := by
  intro cs a rest h hMem
  obtain ⟨⟨⟨value, count⟩, next⟩, hCounted, h⟩ := Option.bind_eq_some_iff.mp h
  cases h
  exact spares_counted least most cs _ _ hCounted hMem

theorem spares_char {wanted : Char} (hOther : wanted ≠ 'Z') {cs rest : List Char}
    (h : char wanted cs = some rest) (hMem : 'Z' ∈ cs) : 'Z' ∈ rest := by
  cases cs with
  | nil => cases h
  | cons c cs =>
      rw [char] at h
      split at h
      · rename_i hSame
        cases h
        exact (List.mem_cons.mp hMem).resolve_left fun hFirst => hOther (hSame.symm.trans hFirst.symm)
      · cases h

theorem spares_fraction : Spares fraction := by
  intro cs a rest h hMem
  obtain ⟨⟨⟨value, count⟩, next⟩, hCounted, h⟩ := Option.bind_eq_some_iff.mp h
  cases h
  exact mem_dropWhile rfl (spares_counted 1 9 cs _ _ hCounted hMem)

theorem spares_optionalFraction : Spares optionalFraction := by
  intro cs a rest h hMem
  unfold optionalFraction at h
  split at h
  · exact spares_fraction _ _ _ h ((List.mem_cons.mp hMem).resolve_left (by decide))
  · cases h
    exact hMem

end Scan

open Scan

theorem spares_signedYear : Spares signedYear := by
  intro cs a rest h hMem
  unfold signedYear at h
  split at h <;> obtain ⟨⟨year, next⟩, hNumber, h⟩ := Option.bind_eq_some_iff.mp h <;> cases h
  · exact spares_number _ _ _ _ _ hNumber ((List.mem_cons.mp hMem).resolve_left (by decide))
  · exact spares_number _ _ _ _ _ hNumber ((List.mem_cons.mp hMem).resolve_left (by decide))
  · exact spares_number _ _ _ _ _ hNumber hMem

theorem spares_shortField : Spares shortField := fun _ a rest h hMem =>
  spares_number 1 2 _ a rest h (mem_blanks hMem)

theorem spares_drop {separator : Separator} {cs rest : List Char} (h : separator.drop cs = some rest)
    (hMem : 'Z' ∈ cs) : 'Z' ∈ rest := by
  cases separator with
  | blanks =>
      cases h
      exact mem_blanks hMem
  | letter => exact spares_char (by decide) h hMem

/-- No form without an offset takes the letter that stands for none. -/
theorem ofNaive?_eq_none (separator : Separator) (mayHaveFraction : Bool) {cs : List Char} (h : 'Z' ∈ cs) :
    ofNaive? separator mayHaveFraction cs = none := by
  refine Option.eq_none_iff_forall_ne_some.mpr fun t hRead => ?_
  obtain ⟨⟨year, cs⟩, hYear, hRead⟩ := Option.bind_eq_some_iff.mp hRead
  obtain ⟨_, hDash, hRead⟩ := Option.bind_eq_some_iff.mp hRead
  obtain ⟨⟨month, _⟩, hMonth, hRead⟩ := Option.bind_eq_some_iff.mp hRead
  obtain ⟨_, hDash', hRead⟩ := Option.bind_eq_some_iff.mp hRead
  obtain ⟨⟨day, _⟩, hDay, hRead⟩ := Option.bind_eq_some_iff.mp hRead
  obtain ⟨_, hSeparator, hRead⟩ := Option.bind_eq_some_iff.mp hRead
  obtain ⟨⟨hour, _⟩, hHour, hRead⟩ := Option.bind_eq_some_iff.mp hRead
  obtain ⟨_, hColon, hRead⟩ := Option.bind_eq_some_iff.mp hRead
  obtain ⟨⟨minute, _⟩, hMinute, hRead⟩ := Option.bind_eq_some_iff.mp hRead
  obtain ⟨_, hColon', hRead⟩ := Option.bind_eq_some_iff.mp hRead
  obtain ⟨⟨second, behind⟩, hSecond, hRead⟩ := Option.bind_eq_some_iff.mp hRead
  have hBehind : 'Z' ∈ behind := by
    have hMonthRest := spares_char (by decide) hDash (spares_signedYear _ _ _ hYear (mem_blanks h))
    have hDayRest := spares_char (by decide) hDash' (spares_shortField _ _ _ hMonth hMonthRest)
    have hHourRest := spares_drop hSeparator (spares_shortField _ _ _ hDay hDayRest)
    have hMinuteRest := spares_char (by decide) hColon (spares_shortField _ _ _ hHour hHourRest)
    have hSecondRest := spares_char (by decide) hColon' (spares_shortField _ _ _ hMinute hMinuteRest)
    exact spares_shortField _ _ _ hSecond hSecondRest
  have hRefused : ∀ {last : List Char} {found : Option Timestamp}, 'Z' ∈ last →
      (if last.isEmpty && yearAllowed year then found else none) ≠ some t := by
    intro last found hLast hFound
    have hMore : last.isEmpty = false := List.isEmpty_eq_false_iff.mpr (List.ne_nil_of_mem hLast)
    rw [hMore] at hFound
    cases hFound
  cases mayHaveFraction with
  | true =>
      obtain ⟨⟨nano, last⟩, hFraction, hRead⟩ := Option.bind_eq_some_iff.mp hRead
      exact hRefused (spares_optionalFraction _ _ _ hFraction hBehind) hRead
  | false => exact hRefused hBehind hRead

/-- The internet form begins with a digit. -/
theorem ofInternet?_eq_none {cs : List Char} (h : ∀ c ∈ cs.head?, c.isDigit = false) :
    ofInternet? cs = none := by
  have hYear : Scan.number 4 4 cs = none := by
    cases cs with
    | nil => rfl
    | cons c cs => simp [Scan.number, Scan.counted, Scan.digitsFrom, h c rfl]
  simp [ofInternet?, hYear]

section Wide

variable {t : Timestamp}

/-- A year that four digits cannot show begins with a sign. -/
theorem wire_of_wide (h : ¬(0 ≤ t.date.year ∧ t.date.year ≤ 9999)) :
    ∃ sign more, t.wire.toList = sign :: (more ++ ['Z']) ∧ (sign = '-' ∨ sign = '+') := by
  have hYear : yearText t.date.year = (if t.date.year < 0 then "-" else "+") ++ digits 4 t.date.year.natAbs :=
    if_neg fun hShown => h (by simpa using hShown)
  have hSign : (if t.date.year < 0 then "-" else "+").toList = [if t.date.year < 0 then '-' else '+'] := by
    split <;> rfl
  refine ⟨if t.date.year < 0 then '-' else '+', ?_, ?_, by split <;> simp⟩
  · exact (digits 4 t.date.year.natAbs ++ "-" ++ digits 2 t.date.month ++ "-" ++ digits 2 t.date.day ++ "T" ++
      t.minuteText ++ ":" ++ digits 2 (t.second % 60 + t.nano / 1000000000) ++
      fractionText (t.nano % 1000000000)).toList
  · simp [wire, unzoned, dateText, hYear, hSign]

theorem parse_wire_of_wide (h : ¬(0 ≤ t.date.year ∧ t.date.year ≤ 9999)) : parse t.wire = none := by
  obtain ⟨sign, more, hWire, hSign⟩ := wire_of_wide h
  have hFirst : sign.isDigit = false ∧ Text.isBlank sign = false := by
    rcases hSign with rfl | rfl <;> decide
  have hTrimmed : Text.trimChars t.wire.toList = sign :: (more ++ ['Z']) := by
    rw [hWire]
    refine Text.trimChars_of_ends (fun c hHead => ?_) fun c hLast => ?_
    · cases hHead
      exact hFirst.2
    · rw [← List.cons_append, List.getLast?_concat] at hLast
      cases hLast
      decide
  have hMem : 'Z' ∈ sign :: (more ++ ['Z']) := by simp
  have hInternet : ofInternet? (sign :: (more ++ ['Z'])) = none := by
    refine ofInternet?_eq_none fun c hHead => ?_
    cases hHead
    exact hFirst.1
  rw [parse, hTrimmed]
  refine List.findSome?_eq_none_iff.mpr fun form _ => ?_
  cases form with
  | internet => exact hInternet
  | naive separator mayHaveFraction => exact ofNaive?_eq_none separator mayHaveFraction hMem

/-- Reading what is written of a timestamp gives it back, or nothing when its year needs a sign. -/
theorem parse_wire_eq (t : Timestamp) : parse t.wire = if t.fourDigits then some t else none := by
  by_cases hYear : 0 ≤ t.date.year ∧ t.date.year ≤ 9999
  · rw [if_pos (fourDigits_iff.mpr hYear), parse_wire t hYear]
  · rw [if_neg ((not_congr fourDigits_iff).mpr hYear), parse_wire_of_wide hYear]

end Wide

end AuditDesk.Timestamp
