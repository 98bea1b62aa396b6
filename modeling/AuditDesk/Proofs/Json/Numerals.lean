import AuditDesk.Proofs.Json.Yields

/-! What a reader makes of a spelled number does not depend on what stands behind it. The digits of a number
end at a character that is none, and in front of the end of a value there is no other. -/
namespace AuditDesk.Json

open Text

namespace Numeral

/-- No digit comes next. -/
def Halts (bytes : List UInt8) : Prop := ∀ b ∈ bytes.head?, digitOf b = none

theorem digitOf_eq_none {b : UInt8} (h : isDigit b = false) : digitOf b = none := by
  rw [digitOf]
  exact if_neg (Bool.eq_false_iff.mp h)

theorem isDigit_of_digitOf {b : UInt8} (h : digitOf b = none) : isDigit b = false := by
  cases hDigit : isDigit b with
  | false => rfl
  | true =>
      rw [digitOf, ← isDigit, if_pos hDigit] at h
      cases h

theorem halts_of_ends {rest : List UInt8} (h : EndsValue rest) : Halts rest := digitOf_of_ends h

variable {cs : List Char} (hDigits : ∀ c ∈ cs, c.isDigit = true)
include hDigits

/-- How many digits a significand takes depends on the digits alone. -/
theorem wordDigits_run (value count : Nat) : ∃ word taken left, cs = taken ++ left ∧
    ∀ tail, Halts tail → wordDigits value count (encoded cs ++ tail) =
      (word, count + taken.length, encoded left ++ tail) := by
  induction cs generalizing value count with
  | nil =>
      refine ⟨value, [], [], rfl, fun tail hHalts => ?_⟩
      cases tail with
      | nil => rfl
      | cons b tail =>
          simp only [encoded_nil, List.nil_append, wordDigits, hHalts b rfl]
          rfl
  | cons c cs ih =>
      obtain ⟨b, hBytes, _, hDigit, _⟩ := digit_byte (hDigits c List.mem_cons_self)
      by_cases hFits : value * 10 + (c.toNat - 48) ≤ maxWord
      · obtain ⟨word, taken, left, rfl, hRun⟩ := ih (fun d hd => hDigits d (List.mem_cons_of_mem _ hd))
          (value * 10 + (c.toNat - 48)) (count + 1)
        refine ⟨word, c :: taken, left, rfl, fun tail hHalts => ?_⟩
        simp only [encoded_cons, hBytes, List.cons_append, List.nil_append, wordDigits, hDigit, if_pos hFits]
        rw [hRun tail hHalts, List.length_cons, Nat.add_assoc, Nat.add_comm 1]
      · refine ⟨value, [], c :: cs, rfl, fun tail _ => ?_⟩
        simp only [encoded_cons, hBytes, List.cons_append, List.nil_append, wordDigits, hDigit, if_neg hFits]
        rfl

theorem exponentDigits_run (value count : Nat) {tail : List UInt8} (hHalts : Halts tail) :
    exponentDigits value count (encoded cs ++ tail) = exponentDigits value count (encoded cs) := by
  induction cs generalizing value count with
  | nil =>
      cases tail with
      | nil => rfl
      | cons b tail => simp only [encoded_nil, List.nil_append, exponentDigits, hHalts b rfl]
  | cons c cs ih =>
      obtain ⟨b, hBytes, _, hDigit, _⟩ := digit_byte (hDigits c List.mem_cons_self)
      simp only [encoded_cons, hBytes, List.cons_append, List.nil_append, exponentDigits, hDigit]
      split
      · exact ih (fun d hd => hDigits d (List.mem_cons_of_mem _ hd)) _ _
      · rfl

theorem skipWhile_digits {tail : List UInt8} (hHalts : Halts tail) (p : Position) :
    ∃ q, Cursor.skipWhile isDigit ⟨encoded cs ++ tail, p⟩ = ⟨tail, q⟩ := by
  induction cs generalizing p with
  | nil =>
      cases tail with
      | nil => exact ⟨p, rfl⟩
      | cons b tail =>
          exact ⟨p, Cursor.skipWhile_of_not tail p (isDigit_of_digitOf (hHalts b rfl))⟩
  | cons c cs ih =>
      obtain ⟨b, hBytes, _, hDigit, _⟩ := digit_byte (hDigits c List.mem_cons_self)
      obtain ⟨q, hRest⟩ := ih (fun d hd => hDigits d (List.mem_cons_of_mem _ hd)) (p.after b)
      refine ⟨q, ?_⟩
      rw [encoded_cons, hBytes]
      exact (Cursor.skipWhile_of_keep _ p (digitOf_eq_some hDigit)).trans hRest

end Numeral

namespace Reader

open Numeral Spelling

section Numbers

variable (positive : Bool) (value : Nat) (scale : Int)

theorem peek_digit {c : Char} (h : c.isDigit = true) (cs : List Char) (tail : List UInt8) (p : Position) :
    (⟨encoded (c :: cs) ++ tail, p⟩ : Cursor).peek? = some c := by
  obtain ⟨b, hBytes, hChar, _⟩ := digit_byte h
  rw [encoded_cons, hBytes]
  exact congrArg some hChar

theorem digit_not_sign {c : Char} (h : c.isDigit = true) : some c ≠ some '+' ∧ some c ≠ some '-' := by
  constructor
  · rintro ⟨⟩
    cases h
  · rintro ⟨⟩
    cases h

theorem skip_mark (e : Exponent) (rest : List UInt8) (p : Position) : ∃ q,
    skip ⟨encoded e.chars ++ rest, p⟩ = .done () ⟨encoded (e.sign ++ e.digits.chars) ++ rest, q⟩ := by
  rw [Exponent.chars, encoded_cons]
  rcases e.marks with hMark | hMark
  · rw [hMark]
    exact ⟨p.after 0x65, rfl⟩
  · rw [hMark]
    exact ⟨p.after 0x45, rfl⟩

theorem result?_finish (c : Cursor) : (finish positive value scale c).result? =
    (scaled value.toUInt64.toFloat scale).map fun x => (.double (signed positive x), c) := by
  unfold finish
  cases scaled value.toUInt64.toFloat scale <;> rfl

theorem yields_exponentDigits (upward : Bool) (ds : Digits) : ∃ made,
    (do
      match ← look with
      | none => failHere .endOfValue
      | some c =>
          if !c.isDigit then
            skip
            failHere .invalidNumber
          else fun cursor =>
            let last := cursor.skipWhile isDigit
            match exponentDigits 0 0 cursor.rest with
            | .ok e => finish positive value (if upward then scale + e else scale - e) last
            | .error count =>
                if value ≠ 0 && upward then failHere .numberOutOfRange (cursor.forward count)
                else .done (.double (signed positive 0.0)) last : Reader Number).Yields ds.chars made := by
  obtain ⟨chars, hDigits, hSome⟩ := ds
  cases chars with
  | nil => exact absurd rfl hSome
  | cons c cs =>
      have hDigit := hDigits c List.mem_cons_self
      cases hRun : exponentDigits 0 0 (encoded (c :: cs)) with
      | ok e =>
          refine ⟨(scaled value.toUInt64.toFloat (if upward then scale + e else scale - e)).map fun x =>
            .double (signed positive x), fun rest p hEnds => ?_⟩
          obtain ⟨q, hLast⟩ := skipWhile_digits hDigits (halts_of_ends hEnds) p
          refine ⟨q, ?_⟩
          rw [look_bind, peek_digit hDigit]
          simp only [hDigit, Bool.not_true, Bool.false_eq_true, ↓reduceIte,
            exponentDigits_run hDigits 0 0 (halts_of_ends hEnds), hRun, hLast, result?_finish]
          rw [Option.map_map]
          rfl
      | error count =>
          refine ⟨if value ≠ 0 && upward then none else some (.double (signed positive 0.0)),
            fun rest p hEnds => ?_⟩
          obtain ⟨q, hLast⟩ := skipWhile_digits hDigits (halts_of_ends hEnds) p
          refine ⟨q, ?_⟩
          rw [look_bind, peek_digit hDigit]
          simp only [hDigit, Bool.not_true, Bool.false_eq_true, ↓reduceIte,
            exponentDigits_run hDigits 0 0 (halts_of_ends hEnds), hRun, hLast]
          split <;> rfl

theorem yields_exponent (e : Exponent) : ∃ made, (exponentPart positive value scale).Yields e.chars made := by
  have hMark := skip_mark e
  rcases e.signs with hSign | hSign | hSign
  · obtain ⟨made, hMade⟩ := yields_exponentDigits positive value scale true e.digits
    refine ⟨made, fun rest p hEnds => ?_⟩
    obtain ⟨start, hSkip⟩ := hMark rest p
    obtain ⟨q, hRead⟩ := hMade rest start hEnds
    refine ⟨q, ?_⟩
    obtain ⟨c, cs, hChars⟩ := List.exists_cons_of_ne_nil e.digits.nonempty
    have hDigit := e.digits.digit c (hChars ▸ List.mem_cons_self)
    obtain ⟨hPlus, hMinus⟩ := digit_not_sign hDigit
    rw [hChars] at hRead hSkip
    rw [exponentPart, bind_of_done _ hSkip, hSign, List.nil_append, look_bind, peek_digit hDigit]
    simp only
    exact hRead
  · obtain ⟨made, hMade⟩ := yields_exponentDigits positive value scale true e.digits
    refine ⟨made, fun rest p hEnds => ?_⟩
    obtain ⟨start, hSkip⟩ := hMark rest p
    obtain ⟨q, hRead⟩ := hMade rest (start.after 0x2B) hEnds
    refine ⟨q, ?_⟩
    rw [exponentPart, bind_of_done _ hSkip, hSign]
    exact hRead
  · obtain ⟨made, hMade⟩ := yields_exponentDigits positive value scale false e.digits
    refine ⟨made, fun rest p hEnds => ?_⟩
    obtain ⟨start, hSkip⟩ := hMark rest p
    obtain ⟨q, hRead⟩ := hMade rest (start.after 0x2D) hEnds
    refine ⟨q, ?_⟩
    rw [exponentPart, bind_of_done _ hSkip, hSign]
    exact hRead

theorem significand_run {cs : List Char} (hDigits : ∀ c ∈ cs, c.isDigit = true) :
    ∃ word taken left, cs = taken ++ left ∧ ∀ tail p, Halts tail →
      ∃ q, significand value ⟨encoded cs ++ tail, p⟩ = .done (word, taken.length) ⟨encoded left ++ tail, q⟩ := by
  obtain ⟨word, taken, left, rfl, hRun⟩ := wordDigits_run hDigits value 0
  refine ⟨word, taken, left, rfl, fun tail p hHalts => ?_⟩
  have hTaken : ∀ c ∈ taken, c.isDigit = true := fun c hc => hDigits c (List.mem_append_left _ hc)
  obtain ⟨q, hForward⟩ := forward_digits hTaken (encoded left ++ tail) p
  rw [← List.append_assoc, ← encoded_append] at hForward
  refine ⟨q, ?_⟩
  simp only [significand, hRun tail hHalts, Nat.zero_add, hForward]

section Ends

variable {rest : List UInt8} (hEnds : EndsValue rest) (p : Position)
include hEnds

theorem peek_exponent (e? : Option Exponent) :
    (⟨encoded (exponentChars e?) ++ rest, p⟩ : Cursor).peek?.any Char.isDigit = false ∧
      (⟨encoded (exponentChars e?) ++ rest, p⟩ : Cursor).peek? ≠ some '.' ∧
      isExponentMark (⟨encoded (exponentChars e?) ++ rest, p⟩ : Cursor).peek? = e?.isSome := by
  cases e? with
  | none => exact peek_of_ends hEnds p
  | some e =>
      obtain ⟨mark, sign, ds, hMark, hSign⟩ := e
      rcases hMark with rfl | rfl
      · exact ⟨rfl, by change some 'e' ≠ _; decide, rfl⟩
      · exact ⟨rfl, by change some 'E' ≠ _; decide, rfl⟩

end Ends

theorem halts_of_peek {bytes : List UInt8} {p : Position}
    (h : (⟨bytes, p⟩ : Cursor).peek?.any Char.isDigit = false) : Halts bytes := by
  rintro b hHead
  cases bytes with
  | nil => cases hHead
  | cons first bytes =>
      cases hHead
      exact digitOf_eq_none ((isDigit_ofUInt8 b).symm.trans h)

/-- Behind the digits there is an exponent or nothing more. -/
theorem yields_scaled (e? : Option Exponent) : ∃ made,
    (do
      if isExponentMark (← look) then exponentPart positive value scale
      else finish positive value scale : Reader Number).Yields (exponentChars e?) made := by
  cases e? with
  | none =>
      refine ⟨(scaled value.toUInt64.toFloat scale).map fun x => .double (signed positive x),
        fun rest p hEnds => ⟨p, ?_⟩⟩
      rw [look_bind, (peek_exponent hEnds p none).2.2]
      simp only [Option.isSome_none, Bool.false_eq_true, ↓reduceIte, result?_finish, Option.map_map]
      rfl
  | some e =>
      obtain ⟨made, hMade⟩ := yields_exponent positive value scale e
      refine ⟨made, fun rest p hEnds => ?_⟩
      obtain ⟨q, hRead⟩ := hMade rest p hEnds
      refine ⟨q, ?_⟩
      rw [look_bind, (peek_exponent hEnds p (some e)).2.2]
      exact hRead

theorem yields_fraction (ds : Digits) (e? : Option Exponent) : ∃ made,
    (fractionPart positive value scale).Yields ('.' :: (ds.chars ++ exponentChars e?)) made := by
  obtain ⟨chars, hDigits, hSome⟩ := ds
  obtain ⟨word, taken, left, rfl, hRun⟩ := significand_run value hDigits
  obtain ⟨made, hMade⟩ := yields_scaled positive word (scale - taken.length) e?
  refine ⟨made, fun rest p hEnds => ?_⟩
  have hHalts : Halts (encoded (exponentChars e?) ++ rest) := halts_of_peek (peek_exponent hEnds p e?).1
  obtain ⟨start, hTaken⟩ := hRun (encoded (exponentChars e?) ++ rest) (p.after 0x2E) hHalts
  have hLeft : ∀ c ∈ left, c.isDigit = true := fun c hc => hDigits c (List.mem_append_right _ hc)
  obtain ⟨next, hNext⟩ := skipWhile_digits hLeft hHalts start
  obtain ⟨q, hRead⟩ := hMade rest next hEnds
  refine ⟨q, ?_⟩
  have hFirst : (⟨encoded (taken ++ left) ++ (encoded (exponentChars e?) ++ rest),
      p.after 0x2E⟩ : Cursor).peek?.any Char.isDigit = true := by
    cases hText : taken ++ left with
    | nil => exact absurd hText hSome
    | cons c cs =>
        have hDigit := hDigits c (hText ▸ List.mem_cons_self)
        rw [peek_digit hDigit]
        exact hDigit
  have hSkip : skip ⟨encoded ('.' :: (taken ++ left ++ exponentChars e?)) ++ rest, p⟩ =
      .done () ⟨encoded (taken ++ left) ++ (encoded (exponentChars e?) ++ rest), p.after 0x2E⟩ := by
    rw [encoded_cons, encoded_append (taken ++ left), List.append_assoc, List.append_assoc]
    rfl
  have hDigitsSkip : skipDigits ⟨encoded left ++ (encoded (exponentChars e?) ++ rest), start⟩ =
      .done () ⟨encoded (exponentChars e?) ++ rest, next⟩ := congrArg (Reading.done ()) hNext
  rw [fractionPart, bind_of_done _ hSkip, look_bind, bind_of_done _ hTaken]
  dsimp only
  rw [look_bind]
  simp only [hFirst, Bool.not_true, Bool.and_false, Bool.false_eq_true, ↓reduceIte]
  rw [bind_of_done _ hDigitsSkip]
  exact hRead

theorem scaleChars_of_whole {n : NumberText} (h : n.fraction = none) :
    n.scaleChars = exponentChars n.exponent := by
  rw [NumberText.scaleChars, h]
  rfl

/-- What can stand behind the digits of a whole number. -/
theorem yields_tail (n : NumberText) : ∃ made,
    (unsignedNumber.tail positive value).Yields n.scaleChars made := by
  cases hFraction : n.fraction with
  | some ds =>
      obtain ⟨made, hMade⟩ := yields_fraction positive value 0 ds n.exponent
      refine ⟨made, fun rest p hEnds => ?_⟩
      obtain ⟨q, hRead⟩ := hMade rest p hEnds
      refine ⟨q, ?_⟩
      rw [NumberText.scaleChars, hFraction, unsignedNumber.tail, look_bind]
      exact hRead
  | none =>
      have hChars := scaleChars_of_whole hFraction
      rw [hChars]
      cases hExponent : n.exponent with
      | some e =>
          obtain ⟨made, hMade⟩ := yields_exponent positive value 0 e
          refine ⟨made, fun rest p hEnds => ?_⟩
          obtain ⟨q, hRead⟩ := hMade rest p hEnds
          obtain ⟨_, hPoint, hMark⟩ := peek_exponent hEnds p (some e)
          refine ⟨q, ?_⟩
          rw [unsignedNumber.tail, look_bind, if_neg hPoint, hMark]
          exact hRead
      | none =>
          refine ⟨some (if positive then .integer value
            else if value = 0 || 9223372036854775808 < value then .double (-value.toUInt64.toFloat)
            else .integer (-value)), fun rest p hEnds => ⟨p, ?_⟩⟩
          obtain ⟨_, hPoint, hMark⟩ := peek_exponent hEnds p none
          rw [unsignedNumber.tail, look_bind, if_neg hPoint, hMark]
          simp only [Option.isSome_none, Bool.false_eq_true, ↓reduceIte]
          split
          · rfl
          · split <;> rfl

theorem peek_scale {rest : List UInt8} (hEnds : EndsValue rest) (p : Position) (n : NumberText) :
    (⟨encoded n.scaleChars ++ rest, p⟩ : Cursor).peek?.any Char.isDigit = false := by
  rw [NumberText.scaleChars]
  cases n.fraction with
  | none => exact (peek_exponent hEnds p n.exponent).1
  | some ds => rfl

/-- The digits that do not fit are dropped, however many they are. -/
theorem yields_long {cs : List Char} (hDigits : ∀ c ∈ cs, c.isDigit = true) (n : NumberText) : ∃ made,
    (longNumber positive value).Yields (cs ++ n.scaleChars) made := by
  have hNext : ∀ rest p, EndsValue rest → ∃ q,
      Cursor.skipWhile isDigit ⟨encoded (cs ++ n.scaleChars) ++ rest, p⟩ = ⟨encoded n.scaleChars ++ rest, q⟩ := by
    intro rest p hEnds
    rw [encoded_append, List.append_assoc]
    exact skipWhile_digits hDigits (halts_of_peek (peek_scale hEnds p n)) p
  have hDropped : ∀ rest : List UInt8, ((encoded (cs ++ n.scaleChars) ++ rest).length : Int) -
      ((encoded n.scaleChars ++ rest).length : Int) = (encoded cs).length := by
    intro rest
    simp only [encoded_append, List.length_append]
    omega
  cases hFraction : n.fraction with
  | some ds =>
      obtain ⟨made, hMade⟩ := yields_fraction positive value (encoded cs).length ds n.exponent
      refine ⟨made, fun rest p hEnds => ?_⟩
      obtain ⟨next, hSkip⟩ := hNext rest p hEnds
      obtain ⟨q, hRead⟩ := hMade rest next hEnds
      have hPoint : (⟨encoded n.scaleChars ++ rest, next⟩ : Cursor).peek? = some '.' := by
        rw [NumberText.scaleChars, hFraction]
        rfl
      refine ⟨q, ?_⟩
      simp only [longNumber, hSkip, hPoint, hDropped]
      rw [NumberText.scaleChars, hFraction]
      exact hRead
  | none =>
      have hChars := scaleChars_of_whole hFraction
      obtain ⟨made, hMade⟩ := yields_scaled positive value (encoded cs).length n.exponent
      refine ⟨made, fun rest p hEnds => ?_⟩
      obtain ⟨next, hSkip⟩ := hNext rest p hEnds
      obtain ⟨q, hRead⟩ := hMade rest next hEnds
      obtain ⟨_, hPoint, _⟩ := peek_exponent hEnds next n.exponent
      rw [← hChars] at hRead hPoint
      refine ⟨q, ?_⟩
      rw [look_bind] at hRead
      simp only [longNumber, hSkip, hDropped]
      rw [← hRead]
      split <;> rfl

theorem unsigned_start (n : NumberText) : ∃ c cs, (∀ d ∈ c :: cs, d.isDigit = true) ∧
    n.unsignedChars = c :: cs ++ n.scaleChars ∧ (c = '0' → cs = []) := by
  obtain ⟨c, cs, hWhole⟩ := List.exists_cons_of_ne_nil n.whole.nonempty
  refine ⟨c, cs, hWhole ▸ n.whole.digit, by rw [NumberText.unsignedChars, hWhole], fun hZero => ?_⟩
  have hPadded := n.unpadded (by rw [hWhole, hZero]; rfl)
  rw [hWhole] at hPadded
  exact (List.cons.inj hPadded).2

theorem yields_unsigned (n : NumberText) : ∃ made,
    (unsignedNumber positive).Yields n.unsignedChars made := by
  obtain ⟨c, cs, hDigits, hChars, hPadded⟩ := unsigned_start n
  have hDigit := hDigits c List.mem_cons_self
  rw [hChars]
  by_cases hZero : c = '0'
  · have hNone := hPadded hZero
    subst hZero hNone
    obtain ⟨made, hMade⟩ := yields_tail positive 0 n
    refine ⟨made, fun rest p hEnds => ?_⟩
    obtain ⟨q, hRead⟩ := hMade rest (p.after 0x30) hEnds
    refine ⟨q, ?_⟩
    have hSkip : skip ⟨encoded ('0' :: n.scaleChars) ++ rest, p⟩ =
        .done () ⟨encoded n.scaleChars ++ rest, p.after 0x30⟩ := rfl
    change (unsignedNumber positive ⟨encoded ('0' :: n.scaleChars) ++ rest, p⟩).result? = _
    rw [unsignedNumber, look_bind, peek_digit hDigit]
    simp only
    rw [bind_of_done _ hSkip, look_bind, peek_scale hEnds]
    exact hRead
  · obtain ⟨word, taken, left, hSplit, hRun⟩ := significand_run 0 hDigits
    have hLeft : ∀ c ∈ left, c.isDigit = true := fun d hd =>
      hDigits d (hSplit ▸ List.mem_append_right _ hd)
    have hTaken : ∀ rest p, EndsValue rest → ∃ q, significand 0 ⟨encoded (c :: cs ++ n.scaleChars) ++ rest, p⟩ =
        .done (word, taken.length) ⟨encoded (left ++ n.scaleChars) ++ rest, q⟩ := by
      intro rest p hEnds
      rw [encoded_append (c :: cs), encoded_append left, List.append_assoc, List.append_assoc]
      exact hRun _ p (halts_of_peek (peek_scale hEnds p n))
    have hStart : ∀ rest p, (⟨encoded (c :: cs ++ n.scaleChars) ++ rest, p⟩ : Cursor).peek? = some c :=
      fun rest p => peek_digit hDigit _ rest p
    cases left with
    | nil =>
        obtain ⟨made, hMade⟩ := yields_tail positive word n
        refine ⟨made, fun rest p hEnds => ?_⟩
        obtain ⟨start, hRead⟩ := hTaken rest p hEnds
        obtain ⟨q, hTail⟩ := hMade rest start hEnds
        refine ⟨q, ?_⟩
        rw [unsignedNumber, look_bind, hStart]
        simp only [hDigit, ↓reduceIte]
        rw [bind_of_done _ hRead]
        dsimp only
        rw [look_bind, List.nil_append, peek_scale hEnds]
        exact hTail
    | cons d left =>
        obtain ⟨made, hMade⟩ := yields_long positive word hLeft n
        refine ⟨made, fun rest p hEnds => ?_⟩
        obtain ⟨start, hRead⟩ := hTaken rest p hEnds
        obtain ⟨q, hLong⟩ := hMade rest start hEnds
        refine ⟨q, ?_⟩
        have hMore := peek_digit (hLeft d List.mem_cons_self) (left ++ n.scaleChars) rest start
        rw [unsignedNumber, look_bind, hStart]
        simp only [hDigit, ↓reduceIte]
        rw [bind_of_done _ hRead]
        dsimp only
        rw [look_bind, List.cons_append, hMore, Option.any_some, hLeft d List.mem_cons_self]
        exact hLong

end Numbers

section Passing

theorem skipDigits_run {cs : List Char} (hDigits : ∀ c ∈ cs, c.isDigit = true) {rest : List UInt8}
    (hHalts : Halts rest) (p : Position) : ∃ q,
    skipDigits ⟨encoded cs ++ rest, p⟩ = .done () ⟨rest, q⟩ := by
  obtain ⟨q, hSkip⟩ := skipWhile_digits hDigits hHalts p
  exact ⟨q, congrArg (Reading.done ()) hSkip⟩

theorem passes_exponent (e : Exponent) : skipUnsigned.exponent.Yields e.chars (some ()) := by
  obtain ⟨first, more, hChars⟩ := List.exists_cons_of_ne_nil e.digits.nonempty
  have hDigit := e.digits.digit first (hChars ▸ List.mem_cons_self)
  intro rest p hEnds
  obtain ⟨start, hSkip⟩ := skip_mark e rest p
  have hRead : ∀ p, ∃ q, ((do if (← look).any Char.isDigit then skipDigits else
      skip
      failHere .invalidNumber : Reader Unit) ⟨encoded (first :: more) ++ rest, p⟩).result? =
        some ((), ⟨rest, q⟩) := by
    intro p
    obtain ⟨q, hDone⟩ := skipDigits_run (hChars ▸ e.digits.digit) (halts_of_ends hEnds) p
    refine ⟨q, ?_⟩
    rw [look_bind, peek_digit hDigit, Option.any_some, hDigit]
    exact congrArg Reading.result? hDone
  rw [skipUnsigned.exponent, bind_of_done _ hSkip, hChars]
  rcases e.signs with hSign | hSign | hSign
  · obtain ⟨hPlus, hMinus⟩ := digit_not_sign hDigit
    rw [hSign, List.nil_append, look_bind, peek_digit hDigit]
    simp only
    exact hRead _
  · rw [hSign]
    exact hRead (start.after 0x2B)
  · rw [hSign]
    exact hRead (start.after 0x2D)

theorem passes_exponentChars (e? : Option Exponent) : (do
    if isExponentMark (← look) then skipUnsigned.exponent : Reader Unit).Yields (exponentChars e?) (some ()) := by
  intro rest p hEnds
  rw [look_bind, (peek_exponent hEnds p e?).2.2]
  cases e? with
  | none => exact ⟨p, rfl⟩
  | some e => exact passes_exponent e rest p hEnds

theorem passes_scale (n : NumberText) : skipUnsigned.tail.Yields n.scaleChars (some ()) := by
  intro rest p hEnds
  rw [NumberText.scaleChars]
  cases n.fraction with
  | none =>
      obtain ⟨q, hRead⟩ := passes_exponentChars n.exponent rest p hEnds
      refine ⟨q, ?_⟩
      rw [skipUnsigned.tail, fractionChars, List.nil_append, look_bind,
        if_neg (peek_exponent hEnds p n.exponent).2.1]
      exact hRead
  | some ds =>
      obtain ⟨chars, hDigits, hSome⟩ := ds
      obtain ⟨first, more, rfl⟩ := List.exists_cons_of_ne_nil hSome
      have hDigit := hDigits first List.mem_cons_self
      have hHalts : Halts (encoded (exponentChars n.exponent) ++ rest) :=
        halts_of_peek (peek_exponent hEnds p n.exponent).1
      obtain ⟨next, hDone⟩ := skipDigits_run hDigits hHalts (p.after 0x2E)
      obtain ⟨q, hRead⟩ := passes_exponentChars n.exponent rest next hEnds
      have hText : encoded ('.' :: (first :: more) ++ exponentChars n.exponent) ++ rest =
          0x2E :: (encoded (first :: more) ++ (encoded (exponentChars n.exponent) ++ rest)) := by
        rw [List.cons_append, encoded_cons, encoded_append, List.append_assoc, List.append_assoc]
        rfl
      refine ⟨q, ?_⟩
      rw [fractionChars, hText]
      change ((do
        if (← look).any Char.isDigit then
          skipDigits
          if isExponentMark (← look) then skipUnsigned.exponent
        else failAhead .invalidNumber : Reader Unit) ⟨encoded (first :: more) ++ _, p.after 0x2E⟩).result? = _
      rw [look_bind, peek_digit hDigit, Option.any_some, hDigit, if_pos rfl, bind_of_done _ hDone]
      exact hRead

/-- A number is passed over even if it is out of range. -/
theorem passes_unsigned (n : NumberText) : skipUnsigned.Yields n.unsignedChars (some ()) := by
  intro rest p hEnds
  obtain ⟨c, cs, hDigits, hChars, hPadded⟩ := unsigned_start n
  have hDigit := hDigits c List.mem_cons_self
  have hStart := peek_digit hDigit (cs ++ n.scaleChars) rest p
  rw [hChars, skipUnsigned, look_bind, List.cons_append, hStart]
  by_cases hZero : c = '0'
  · have hNone := hPadded hZero
    subst hZero hNone
    obtain ⟨q, hRead⟩ := passes_scale n rest (p.after 0x30) hEnds
    have hSkip : skip ⟨encoded ('0' :: ([] ++ n.scaleChars)) ++ rest, p⟩ =
        .done () ⟨encoded n.scaleChars ++ rest, p.after 0x30⟩ := rfl
    refine ⟨q, ?_⟩
    simp only
    rw [bind_of_done _ hSkip, look_bind, peek_scale hEnds]
    exact hRead
  · obtain ⟨next, hDone⟩ := skipDigits_run hDigits (halts_of_peek (peek_scale hEnds p n)) p
    obtain ⟨q, hRead⟩ := passes_scale n rest next hEnds
    refine ⟨q, ?_⟩
    simp only [hDigit, ↓reduceIte]
    rw [← List.cons_append, encoded_append, List.append_assoc, bind_of_done _ hDone]
    exact hRead

end Passing

end Reader

end AuditDesk.Json
