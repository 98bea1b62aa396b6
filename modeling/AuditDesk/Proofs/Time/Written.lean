import AuditDesk.Time.Reading

/-! A timestamp is read back from the form in which reports carry it, to the nanosecond and with its leap
second, as long as four digits can show its year. -/
namespace AuditDesk.Timestamp

section Digits

variable {width n : Nat}

theorem toList_digits (width n : Nat) : (digits width n).toList =
    List.replicate (width - (Nat.toDigits 10 n).length) '0' ++ Nat.toDigits 10 n := by
  have hLength : (toString n).length = (Nat.toDigits 10 n).length := by
    rw [Nat.toString_eq_ofList_toDigits, String.length_ofList]
  rw [digits, String.toList_append, hLength, Nat.toString_eq_ofList_toDigits, Text.repeated,
    String.toList_ofList, String.toList_ofList]

theorem isDigit_of_mem_digits {c : Char} (h : c ∈ (digits width n).toList) : c.isDigit = true := by
  rw [toList_digits, List.mem_append] at h
  rcases h with hZero | hDigit
  · rw [(List.mem_replicate.mp hZero).2]
    rfl
  · exact Nat.isDigit_of_mem_toDigits (by decide) (by decide) hDigit

theorem length_digits (hWidth : 0 < width) (h : n < Nat.pow 10 width) :
    (digits width n).toList.length = width := by
  have hShort := (Nat.length_toDigits_le_iff (by decide) hWidth).mpr h
  rw [toList_digits, List.length_append, List.length_replicate]
  omega

theorem ofDigitChars_digits (width n : Nat) : Nat.ofDigitChars 10 (digits width n).toList 0 = n := by
  rw [toList_digits, Nat.ofDigitChars_append, Nat.ofDigitChars_replicate_zero, Nat.mul_zero,
    Nat.ofDigitChars_ten_toDigits]

theorem digits_injective (width : Nat) : Function.Injective (digits width) := by
  intro first second hSame
  have hValue := congrArg (fun text => Nat.ofDigitChars 10 text.toList 0) hSame
  simpa only [ofDigitChars_digits] using hValue

end Digits

namespace Scan

/-- Digits are read up to the most that are allowed, or up to something else. -/
theorem digitsFrom_append {cs : List Char} (hDigits : ∀ c ∈ cs, c.isDigit = true) {most : Nat}
    (hMost : cs.length ≤ most) {rest : List Char}
    (hEnd : cs.length = most ∨ ∀ c ∈ rest.head?, c.isDigit = false) (value count : Nat) :
    digitsFrom value count most (cs ++ rest) =
      (Nat.ofDigitChars 10 cs value, count + cs.length, rest) := by
  induction cs generalizing most value count with
  | nil =>
      cases most with
      | zero => rfl
      | succ most =>
          cases rest with
          | nil => rfl
          | cons c rest =>
              have hOther : c.isDigit = false := by
                rcases hEnd with hFull | hOther
                · cases hFull
                · exact hOther c rfl
              simp [digitsFrom, hOther]
  | cons c cs ih =>
      obtain ⟨most, rfl⟩ : ∃ k, most = k + 1 := ⟨most - 1, by simp at hMost; omega⟩
      have hMore := ih (fun d hd => hDigits d (List.mem_cons_of_mem _ hd)) (Nat.le_of_succ_le_succ hMost)
        (hEnd.imp_left Nat.succ.inj) (value * 10 + (c.toNat - 48)) (count + 1)
      rw [List.cons_append, digitsFrom, if_pos (hDigits c List.mem_cons_self), hMore,
        Nat.ofDigitChars_cons, List.length_cons, Nat.mul_comm value, Nat.add_right_comm]
      rfl

theorem counted_digits {least most width n : Nat} (hLeast : least ≤ width) (hMost : width ≤ most)
    (hWidth : 0 < width) (hn : n < Nat.pow 10 width) {rest : List Char}
    (hEnd : width = most ∨ ∀ c ∈ rest.head?, c.isDigit = false) :
    counted least most ((digits width n).toList ++ rest) = some ((n, width), rest) := by
  have hLength := length_digits hWidth hn
  have hDigits : ∀ c ∈ (digits width n).toList, c.isDigit = true := fun _ => isDigit_of_mem_digits
  have hRead : digitsFrom 0 0 most ((digits width n).toList ++ rest) = (n, width, rest) := by
    rw [digitsFrom_append hDigits (by rw [hLength]; exact hMost) (by rw [hLength]; exact hEnd),
      ofDigitChars_digits, hLength, Nat.zero_add]
  simp only [counted, hRead, if_pos hLeast]

theorem number_digits {width n : Nat} (hWidth : 0 < width) (hn : n < Nat.pow 10 width) (rest : List Char) :
    number width width ((digits width n).toList ++ rest) = some (n, rest) := by
  rw [number, counted_digits (Nat.le_refl _) (Nat.le_refl _) hWidth hn (.inl rfl)]
  rfl

theorem fraction_digits {width n : Nat} (hWidth : 0 < width ∧ width ≤ 9) (hn : n < Nat.pow 10 width)
    {rest : List Char} (hEnd : ∀ c ∈ rest.head?, c.isDigit = false) :
    fraction ((digits width n).toList ++ rest) = some (n * Nat.pow 10 (9 - width), rest) := by
  rw [fraction, counted_digits hWidth.1 hWidth.2 hWidth.1 hn (.inr hEnd)]
  simp only [Option.bind_eq_bind, Option.bind_some, Option.pure_def, Text.dropWhile_of_head hEnd]

theorem optionalFraction_point (width n : Nat) (hWidth : 0 < width ∧ width ≤ 9)
    (hn : n < Nat.pow 10 width) {rest : List Char} (hEnd : ∀ c ∈ rest.head?, c.isDigit = false) :
    optionalFraction (("." ++ digits width n).toList ++ rest) = some (n * Nat.pow 10 (9 - width), rest) := by
  have hPoint : ".".toList = ['.'] := rfl
  rw [String.toList_append, hPoint, List.singleton_append, List.cons_append, optionalFraction,
    fraction_digits hWidth hn hEnd]

/-- A fraction is read back whether three, six or nine digits show it, or none. -/
theorem optionalFraction_fractionText {nano : Nat} (hNano : nano < 1000000000) {rest : List Char}
    (hEnd : ∀ c ∈ rest.head?, c.isDigit = false ∧ c ≠ '.') :
    optionalFraction ((fractionText nano).toList ++ rest) = some (nano, rest) := by
  have hNoDigit : ∀ c ∈ rest.head?, c.isDigit = false := fun c hc => (hEnd c hc).1
  unfold fractionText
  split
  · rename_i hZero
    subst hZero
    cases rest with
    | nil => rfl
    | cons c rest =>
        have hPoint : c ≠ '.' := (hEnd c rfl).2
        rw [String.toList_empty, List.nil_append]
        unfold optionalFraction
        split
        · rename_i hSame
          exact absurd (List.cons.inj hSame).1 hPoint
        · rfl
  · split
    · rename_i hMilli
      have hShort : nano / 1000000 < 1000 := by omega
      have hExact : nano / 1000000 * 1000000 = nano := by omega
      exact (optionalFraction_point 3 _ (by decide) hShort hNoDigit).trans (by rw [hExact])
    · split
      · rename_i hMicro
        have hShort : nano / 1000 < 1000000 := by omega
        have hExact : nano / 1000 * 1000 = nano := by omega
        exact (optionalFraction_point 6 _ (by decide) hShort hNoDigit).trans (by rw [hExact])
      · exact (optionalFraction_point 9 _ (by decide) hNano hNoDigit).trans (by rw [Nat.mul_one])

/-- A reader that succeeds hands its result on. -/
theorem followed {α β : Type} {first : Option α} {next : α → Option β} {a : α} {b : β}
    (hFirst : first = some a) (hNext : next a = some b) : (first >>= next) = some b := by
  rw [hFirst]
  exact hNext

theorem char_cons (c : Char) (rest : List Char) : char c (c :: rest) = some rest := if_pos rfl

end Scan

theorem ofParts?_date (d : Date) : Date.ofParts? d.year d.month d.day = some d :=
  dif_pos ⟨d.month_mem, d.day_mem⟩

theorem month_lt (d : Date) : d.month < 100 := by
  have := d.month_mem
  omega

theorem day_lt (d : Date) : d.day < 100 := by
  have hDay := d.day_mem.2
  have hMonth := daysInMonth_le d.year d.month
  omega

/-- The parts of the time of day that are written make up the instant again. -/
theorem ofClock?_parts (t : Timestamp) :
    ofClock? t.date (t.second / 3600) (t.second / 60 % 60) (t.second % 60 + t.nano / 1000000000)
      (t.nano % 1000000000) = some t := by
  obtain ⟨date, second, nano, hSecond, hNano, hLeap⟩ := t
  simp only [ofClock?]
  rw [dif_pos (by omega)]
  by_cases hSixty : second % 60 + nano / 1000000000 = 60
  · rw [dif_pos hSixty]
    simp only [Option.some.injEq, mk.injEq, true_and]
    omega
  · rw [dif_neg hSixty]
    simp only [Option.some.injEq, mk.injEq, true_and]
    omega

theorem behind_zero (t : Timestamp) : t.behind 0 (by decide) = t := by
  obtain ⟨date, second, nano, hSecond, hNano, hLeap⟩ := t
  simp only [behind]
  rw [dif_neg (by omega), dif_neg (by omega)]
  simp

theorem toList_wire (t : Timestamp) (hYear : 0 ≤ t.date.year ∧ t.date.year ≤ 9999) :
    t.wire.toList =
      (digits 4 t.date.year.toNat).toList ++ '-' :: ((digits 2 t.date.month).toList ++
        '-' :: ((digits 2 t.date.day).toList ++ 'T' :: ((digits 2 (t.second / 3600)).toList ++
          ':' :: ((digits 2 (t.second / 60 % 60)).toList ++
            ':' :: ((digits 2 (t.second % 60 + t.nano / 1000000000)).toList ++
              ((fractionText (t.nano % 1000000000)).toList ++ ['Z'])))))) := by
  have hText : yearText t.date.year = digits 4 t.date.year.toNat :=
    if_pos (Bool.and_eq_true_iff.mpr ⟨decide_eq_true hYear.1, decide_eq_true hYear.2⟩)
  simp [wire, unzoned, dateText, minuteText, hText]

theorem ofInternet?_wire (t : Timestamp) (hYear : 0 ≤ t.date.year ∧ t.date.year ≤ 9999) :
    ofInternet? t.wire.toList = some t := by
  have hSecond := t.second_lt
  have hNano := t.nano_lt
  have hLeap := t.leap
  have hYearBack : ((t.date.year.toNat : Nat) : Int) = t.date.year := Int.toNat_of_nonneg hYear.1
  have hShort : t.date.year.toNat < 10000 := by omega
  have hFour : ∀ rest, Scan.number 4 4 ((digits 4 t.date.year.toNat).toList ++ rest) =
      some (t.date.year.toNat, rest) :=
    Scan.number_digits (by decide) hShort
  have hTwo : ∀ {n : Nat}, n < 100 → ∀ rest, Scan.number 2 2 ((digits 2 n).toList ++ rest) =
      some (n, rest) := fun hn => Scan.number_digits (by decide) hn
  have hFraction : Scan.optionalFraction ((fractionText (t.nano % 1000000000)).toList ++ ['Z']) =
      some (t.nano % 1000000000, ['Z']) :=
    Scan.optionalFraction_fractionText (Nat.mod_lt _ (by decide)) fun _ hFirst => by
      cases hFirst
      exact ⟨rfl, by decide⟩
  rw [toList_wire t hYear]
  refine Scan.followed (hFour _) (Scan.followed (Scan.char_cons _ _) ?_)
  refine Scan.followed (hTwo (month_lt t.date) _) (Scan.followed (Scan.char_cons _ _) ?_)
  refine Scan.followed (hTwo (day_lt t.date) _) (Scan.followed rfl ?_)
  refine Scan.followed (hTwo (by omega) _) (Scan.followed (Scan.char_cons _ _) ?_)
  refine Scan.followed (hTwo (by omega) _) (Scan.followed (Scan.char_cons _ _) ?_)
  refine Scan.followed (hTwo (by omega) _) (Scan.followed hFraction (Scan.followed rfl ?_))
  have hDate : Date.ofParts? (t.date.year.toNat : Int) t.date.month t.date.day = some t.date := by
    rw [hYearBack, ofParts?_date]
  refine Scan.followed hDate (Scan.followed (ofClock?_parts t) ?_)
  exact congrArg some (behind_zero t)

/-- The written form begins with a digit and ends with a letter. -/
theorem trimChars_wire (t : Timestamp) (hYear : 0 ≤ t.date.year ∧ t.date.year ≤ 9999) :
    Text.trimChars t.wire.toList = t.wire.toList := by
  refine Text.trimChars_of_ends (fun c hFirst => ?_) fun c hLast => ?_
  · have hShort : t.date.year.toNat < 10000 := by omega
    have hLength : (digits 4 t.date.year.toNat).toList.length = 4 := length_digits (by decide) hShort
    have hSome : (digits 4 t.date.year.toNat).toList ≠ [] := by
      intro hNone
      rw [hNone] at hLength
      cases hLength
    obtain ⟨digit, more, hDigits⟩ := List.exists_cons_of_ne_nil hSome
    have hMem : digit ∈ (digits 4 t.date.year.toNat).toList := hDigits ▸ List.mem_cons_self
    rw [toList_wire t hYear, hDigits, List.cons_append, List.head?_cons] at hFirst
    cases hFirst
    exact Text.isBlank_of_isDigit (isDigit_of_mem_digits hMem)
  · have hWire : t.wire.toList = t.unzoned.toList ++ ['Z'] := String.toList_append
    rw [hWire, List.getLast?_concat] at hLast
    cases hLast
    rfl

/-- A timestamp whose year has four digits is read back as it was written. -/
theorem parse_wire (t : Timestamp) (hYear : 0 ≤ t.date.year ∧ t.date.year ≤ 9999) :
    parse t.wire = some t := by
  have hRead : Form.internet.read (Text.trimChars t.wire.toList) = some t := by
    rw [trimChars_wire t hYear]
    exact ofInternet?_wire t hYear
  rw [parse, forms, List.findSome?_cons, hRead]

end AuditDesk.Timestamp
