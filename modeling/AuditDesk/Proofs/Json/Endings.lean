import AuditDesk.Json.Skip
import AuditDesk.Proofs.Json.Forms

/-! Where the parts of a text end. A number or a string that is only skipped ends where it would have been
read to, and no reader gives bytes back. -/
namespace AuditDesk.Json

namespace Numeral

theorem isDigit_ofUInt8 (b : UInt8) : (Char.ofUInt8 b).isDigit = isDigit b := by
  have hToNat : (Char.ofUInt8 b).val.toNat = b.toNat := rfl
  simp [Char.isDigit, isDigit, UInt32.le_iff_toNat_le, UInt8.le_iff_toNat_le, hToNat]

theorem digitOf_eq_some {b : UInt8} {d : Nat} (h : digitOf b = some d) : isDigit b = true := by
  unfold digitOf at h
  split at h
  · rename_i hDigit
    exact hDigit
  · cases h

theorem skipWhile_of_not_digit {c : Cursor} (h : c.peek?.any Char.isDigit = false) :
    c.skipWhile isDigit = c := by
  obtain ⟨bytes, p⟩ := c
  cases bytes with
  | nil => rfl
  | cons b bytes => exact Cursor.skipWhile_of_not bytes p ((isDigit_ofUInt8 b).symm.trans h)

/-- The bytes that a significand takes are digits, so that passing over the digits goes on behind them. -/
theorem skipWhile_forward_wordDigits (value count : Nat) (bytes : List UInt8) (p : Position) :
    ∃ taken, (wordDigits value count bytes).2.1 = count + taken ∧
      (Cursor.forward taken ⟨bytes, p⟩).skipWhile isDigit = Cursor.skipWhile isDigit ⟨bytes, p⟩ ∧
      (0 < taken → bytes.head?.any isDigit = true) := by
  induction bytes generalizing value count p with
  | nil => exact ⟨0, rfl, rfl, nofun⟩
  | cons b bytes ih =>
      have hStays : ∃ taken, count = count + taken ∧
          (Cursor.forward taken ⟨b :: bytes, p⟩).skipWhile isDigit =
            Cursor.skipWhile isDigit ⟨b :: bytes, p⟩ ∧
          (0 < taken → (b :: bytes).head?.any isDigit = true) := ⟨0, rfl, rfl, nofun⟩
      unfold wordDigits
      cases hDigit : digitOf b with
      | none => exact hStays
      | some d =>
          dsimp only
          split
          · obtain ⟨taken, hCount, hSkip, _⟩ := ih (value * 10 + d) (count + 1) (p.after b)
            have hByte := digitOf_eq_some hDigit
            refine ⟨taken + 1, by omega, ?_, fun _ => hByte⟩
            rw [Cursor.skipWhile_of_keep bytes p hByte]
            exact hSkip
          · exact hStays

end Numeral

namespace Reader

open Numeral

section Numbers

variable {positive : Bool} {value : Nat} {exponent : Int} {n : Number} {c next : Cursor}

theorem finish_done (h : finish positive value exponent c = .done n next) : next = c := by
  unfold finish at h
  cases hScaled : scaled value.toUInt64.toFloat exponent with
  | some x =>
      simp only [hScaled] at h
      cases h
      rfl
  | none =>
      simp only [hScaled] at h
      cases h

/-- The digits of an exponent are all passed over, whether or not they fit. -/
theorem exponent_digits_done {upward : Bool}
    (h : (do
      match ← look with
      | none => failHere .endOfValue
      | some c =>
          if !c.isDigit then
            skip
            failHere .invalidNumber
          else fun cursor =>
            let last := cursor.skipWhile isDigit
            match exponentDigits 0 0 cursor.rest with
            | .ok e => finish positive value (if upward then exponent + e else exponent - e) last
            | .error count =>
                if value ≠ 0 && upward then failHere .numberOutOfRange (cursor.forward count)
                else .done (.double (signed positive 0.0)) last : Reader Number) c = .done n next) :
    c.peek?.any Char.isDigit = true ∧ next = c.skipWhile isDigit := by
  rw [look_bind] at h
  cases hPeek : c.peek? with
  | none =>
      simp only [hPeek] at h
      cases h
  | some first =>
      simp only [hPeek] at h
      cases hDigit : first.isDigit with
      | false =>
          simp only [hDigit, Bool.not_false, ↓reduceIte] at h
          cases h
      | true =>
          simp only [hDigit, Bool.not_true, Bool.false_eq_true, ↓reduceIte] at h
          refine ⟨hDigit, ?_⟩
          split at h
          · exact finish_done h
          · split at h
            · cases h
            · cases h
              rfl

theorem skipUnsigned_exponent (h : exponentPart positive value exponent c = .done n next) :
    skipUnsigned.exponent c = .done () next := by
  obtain ⟨_, _, hSkip, h⟩ := done_of_bind h
  cases hSkip
  have hDone : ∀ signed : Cursor, signed.peek?.any Char.isDigit = true →
      next = signed.skipWhile isDigit →
      (do if (← look).any Char.isDigit then skipDigits else
            skip
            failHere .invalidNumber : Reader Unit) signed = .done () next := by
    intro signed hDigit hNext
    change (if signed.peek?.any Char.isDigit then skipDigits else _ : Reader Unit) signed = _
    rw [if_pos hDigit, hNext]
    rfl
  have hSkip : skip c = .done () c.advance := rfl
  rw [skipUnsigned.exponent, bind_of_done _ hSkip, look_bind]
  rw [look_bind] at h
  by_cases hPlus : c.advance.peek? = some '+'
  · simp only [hPlus] at h ⊢
    obtain ⟨hDigit, hNext⟩ := exponent_digits_done (c := c.advance.advance) h
    exact hDone _ hDigit hNext
  by_cases hMinus : c.advance.peek? = some '-'
  · simp only [hMinus] at h ⊢
    obtain ⟨hDigit, hNext⟩ := exponent_digits_done (c := c.advance.advance) h
    exact hDone _ hDigit hNext
  · simp only at h ⊢
    obtain ⟨hDigit, hNext⟩ := exponent_digits_done h
    exact hDone _ hDigit hNext

/-- Behind the digits there is an exponent or nothing more. -/
theorem skipUnsigned_scale
    (hMarked : isExponentMark c.peek? = true → skipUnsigned.exponent c = .done () next)
    (hPlain : isExponentMark c.peek? = false → next = c) :
    (if isExponentMark c.peek? then skipUnsigned.exponent else pure () : Reader Unit) c =
      .done () next := by
  cases hMark : isExponentMark c.peek? with
  | true => exact hMarked hMark
  | false =>
      rw [hPlain hMark]
      rfl

theorem significand_done (start : Nat) (c : Cursor) :
    ∃ value taken, significand start c = .done (value, taken) (c.forward taken) ∧
      (c.forward taken).skipWhile isDigit = c.skipWhile isDigit ∧
      (0 < taken → c.peek?.any Char.isDigit = true) := by
  obtain ⟨bytes, p⟩ := c
  obtain ⟨taken, hCount, hSkip, hDigit⟩ := skipWhile_forward_wordDigits start 0 bytes p
  rw [Nat.zero_add] at hCount
  refine ⟨(wordDigits start 0 bytes).1, taken, ?_, hSkip, fun hTaken => ?_⟩
  · simp only [significand, hCount]
  · have hFirst := hDigit hTaken
    cases bytes with
    | nil => cases hFirst
    | cons b bytes => exact (isDigit_ofUInt8 b).trans hFirst

theorem skipUnsigned_fraction (hPoint : c.peek? = some '.')
    (h : fractionPart positive value exponent c = .done n next) :
    skipUnsigned.tail c = .done () next := by
  obtain ⟨_, _, hSkip, h⟩ := done_of_bind h
  cases hSkip
  obtain ⟨first, _, hFirst, h⟩ := done_of_bind h
  cases hFirst
  obtain ⟨⟨read, count⟩, _, hTaken, h⟩ := done_of_bind h
  obtain ⟨_, taken, hDone, hSkip, hDigit⟩ := significand_done value c.advance
  rw [hDone] at hTaken
  cases hTaken
  obtain ⟨_, _, hNext, h⟩ := done_of_bind h
  cases hNext
  change (if c.peek? = some '.' then _ else _ : Reader Unit) c = _
  rw [if_pos hPoint]
  change (if c.advance.peek?.any Char.isDigit then _ else _ : Reader Unit) c.advance = _
  cases hFirst : c.advance.peek?.any Char.isDigit with
  | false =>
      have hNone : count = 0 := by
        by_cases hTaken : count = 0
        · exact hTaken
        · rw [hDigit (Nat.pos_of_ne_zero hTaken)] at hFirst
          cases hFirst
      simp only [hNone, hFirst, decide_true, Bool.not_false, Bool.and_true, ↓reduceIte] at h
      cases hNext : (Cursor.forward 0 c.advance).peek? <;> simp only [hNext] at h <;> cases h
  | true =>
      simp only [hFirst, Bool.not_true, Bool.and_false, Bool.false_eq_true, ↓reduceIte] at h ⊢
      obtain ⟨_, _, hDigits, h⟩ := done_of_bind h
      cases hDigits
      rw [hSkip] at h
      change (if isExponentMark (c.advance.skipWhile isDigit).peek? then _ else _ : Reader Number) _ = _ at h
      refine skipUnsigned_scale (fun hMark => ?_) fun hMark => ?_
      · rw [if_pos hMark] at h
        exact skipUnsigned_exponent h
      · rw [hMark, if_neg Bool.false_ne_true] at h
        exact finish_done h

theorem skipUnsigned_long (h : longNumber positive value c = .done n next) :
    skipUnsigned.tail (c.skipWhile isDigit) = .done () next := by
  unfold longNumber at h
  by_cases hPoint : (c.skipWhile isDigit).peek? = some '.'
  · simp only [hPoint] at h
    exact skipUnsigned_fraction hPoint h
  · simp only at h
    change (if (c.skipWhile isDigit).peek? = some '.' then _ else _ : Reader Unit) _ = _
    rw [if_neg hPoint]
    refine skipUnsigned_scale (fun hMark => ?_) fun hMark => ?_
    · rw [if_pos hMark] at h
      exact skipUnsigned_exponent h
    · rw [hMark, if_neg Bool.false_ne_true] at h
      exact finish_done h

theorem skipUnsigned_tail (h : unsignedNumber.tail positive value c = .done n next) :
    skipUnsigned.tail c = .done () next := by
  change (if c.peek? = some '.' then _ else _ : Reader Number) c = _ at h
  by_cases hPoint : c.peek? = some '.'
  · rw [if_pos hPoint] at h
    exact skipUnsigned_fraction hPoint h
  · rw [if_neg hPoint] at h
    change (if c.peek? = some '.' then _ else _ : Reader Unit) c = _
    rw [if_neg hPoint]
    refine skipUnsigned_scale (fun hMark => ?_) fun hMark => ?_
    · rw [if_pos hMark] at h
      exact skipUnsigned_exponent h
    · rw [hMark, if_neg Bool.false_ne_true] at h
      split at h
      · cases h
        rfl
      · split at h <;> cases h <;> rfl

/-- The form of a number decides where it ends, not whether its value fits. -/
theorem skipUnsigned_of_unsignedNumber (h : unsignedNumber positive c = .done n next) :
    skipUnsigned c = .done () next := by
  rw [unsignedNumber, look_bind] at h
  rw [skipUnsigned, look_bind]
  cases hPeek : c.peek? with
  | none =>
      simp only [hPeek] at h
      cases h
  | some first =>
      by_cases hZero : first = '0'
      · simp only [hPeek, hZero] at h ⊢
        change (if c.advance.peek?.any Char.isDigit then _ else _ : Reader Number) c.advance = _ at h
        change (if c.advance.peek?.any Char.isDigit then _ else _ : Reader Unit) c.advance = _
        cases hDigit : c.advance.peek?.any Char.isDigit with
        | true =>
            simp only [hDigit, ↓reduceIte] at h
            cases h
        | false =>
            simp only [hDigit, Bool.false_eq_true, ↓reduceIte] at h ⊢
            exact skipUnsigned_tail h
      · simp only [hPeek] at h ⊢
        cases hFirst : first.isDigit with
        | false =>
            simp only [hFirst, Bool.false_eq_true, ↓reduceIte] at h
            cases h
        | true =>
            simp only [hFirst, ↓reduceIte] at h ⊢
            obtain ⟨⟨read, count⟩, _, hTaken, h⟩ := done_of_bind h
            obtain ⟨_, taken, hDone, hSkip, _⟩ := significand_done 0 c
            rw [hDone] at hTaken
            cases hTaken
            change skipUnsigned.tail (c.skipWhile isDigit) = _
            rw [← hSkip]
            change (if (Cursor.forward count c).peek?.any Char.isDigit then _ else _ : Reader Number) _ = _ at h
            cases hMore : (Cursor.forward count c).peek?.any Char.isDigit with
            | true =>
                simp only [hMore, ↓reduceIte] at h
                exact skipUnsigned_long h
            | false =>
                simp only [hMore, Bool.false_eq_true, ↓reduceIte] at h
                rw [skipWhile_of_not_digit hMore]
                exact skipUnsigned_tail h

end Numbers
end Reader

namespace Quoted

theorem skipBody_unicode {a b c d : UInt8} {unit : Nat} (h : hexValue4 a b c d = some unit)
    (p : Position) (rest : List UInt8) :
    skipBody p (0x5C :: 0x75 :: a :: b :: c :: d :: rest) =
      skipBody (after (p.after 0x5C) [0x75, a, b, c, d]) rest := by
  rw [skipBody]
  simp [h]

theorem skipBody_simpleEscape {e decoded : UInt8} (h : simpleEscape (Char.ofUInt8 e) = some decoded)
    (hUnicode : e ≠ 0x75) (p : Position) (rest : List UInt8) :
    skipBody p (0x5C :: e :: rest) = skipBody ((p.after 0x5C).after e) rest := by
  rw [skipBody.eq_def]
  simp [h, hUnicode]

/-- Where the bytes of a string come to an end, passing over them does so too: every escape that can be
collected is in order. -/
theorem skipBody_of_body {collected bytes rest : List UInt8} {p : Position} {next : Cursor}
    (h : body collected p rest = .done bytes next) : skipBody p rest = .done () next := by
  fun_induction body collected p rest
  all_goals try cases h
  case case2 => simp [skipBody]
  case case8 hFirst _ _ _ _ _ _ _ _ hSecond _ _ _ _ _ ih =>
    rw [skipBody_unicode hFirst, skipBody_unicode hSecond]
    exact ih h
  case case14 hUnit _ _ _ _ _ ih =>
    rw [skipBody_unicode hUnit]
    exact ih h
  case case16 hLong hShort _ hSimple _ _ ih =>
    rw [skipBody_simpleEscape hSimple hShort]
    exact ih h
  case case19 hQuote hBackslash hControl ih =>
    rw [skipBody, if_neg hQuote, if_neg hBackslash, if_neg hControl]
    exact ih h

theorem length_skipBody {p : Position} {rest : List UInt8} {next : Cursor}
    (h : skipBody p rest = .done () next) : next.rest.length < rest.length := by
  fun_induction skipBody p rest
  all_goals try cases h
  case case2 => simp
  all_goals
    rename_i ih
    have hRest := ih h
    simp only [List.length_cons]
    omega

end Quoted

namespace Reader

theorem skipQuoted_of_quoted {c next : Cursor} {s : String} (h : quoted c = .done s next) :
    skipQuoted c = .done () next := by
  unfold quoted at h
  dsimp only at h
  cases hBody : Quoted.body [] c.advance.position c.advance.rest with
  | failed failure last =>
      simp only [hBody] at h
      cases h
  | done bytes last =>
      simp only [hBody] at h
      cases hText : Text.ofBytes? bytes with
      | none =>
          simp only [hText] at h
          cases h
      | some text =>
          simp only [hText] at h
          cases h
          exact Quoted.skipBody_of_body hBody

section Lengths

variable {α β : Type}

/-- A reader never gives bytes back. -/
def Shortens (r : Reader α) : Prop := ∀ c a next, r c = .done a next → next.rest.length ≤ c.rest.length

theorem length_advance (c : Cursor) : c.advance.rest.length ≤ c.rest.length := by
  obtain ⟨rest, p⟩ := c
  cases rest <;> simp [Cursor.advance]

theorem length_advance_lt {c : Cursor} {first : Char} (h : c.peek? = some first) :
    c.advance.rest.length < c.rest.length := by
  obtain ⟨rest, p⟩ := c
  cases rest with
  | nil => cases h
  | cons b rest => exact Nat.lt_succ_self _

theorem length_skipWhile (keep : UInt8 → Bool) (c : Cursor) :
    (c.skipWhile keep).rest.length ≤ c.rest.length := by
  obtain ⟨rest, p⟩ := c
  induction rest generalizing p with
  | nil => exact Nat.le_refl _
  | cons b rest ih =>
      cases hKeep : keep b with
      | true =>
          rw [Cursor.skipWhile_of_keep rest p hKeep]
          exact Nat.le_succ_of_le (ih _)
      | false =>
          simp only [Cursor.skipWhile_of_not rest p hKeep, Nat.le_refl]

theorem Shortens.bind {r : Reader α} {f : α → Reader β} (hFirst : Shortens r)
    (hSecond : ∀ a, Shortens (f a)) : Shortens (r >>= f) := by
  intro c b last h
  obtain ⟨a, next, hNext, hLast⟩ := done_of_bind h
  exact Nat.le_trans (hSecond a next b last hLast) (hFirst c a next hNext)

theorem shortens_yield (a : α) : Shortens (yield a) := by
  rintro c _ _ ⟨⟩
  exact Nat.le_refl _

theorem shortens_pure (a : α) : Shortens (pure a : Reader α) := shortens_yield a

theorem shortens_look : Shortens look := by
  rintro c _ _ ⟨⟩
  exact Nat.le_refl _

theorem shortens_skip : Shortens skip := by
  rintro c _ _ ⟨⟩
  exact length_advance c

theorem shortens_lookPastBlanks : Shortens lookPastBlanks := by
  rintro c _ _ ⟨⟩
  exact length_skipWhile _ c

theorem shortens_skipDigits : Shortens skipDigits := by
  rintro c _ _ ⟨⟩
  exact length_skipWhile _ c

theorem shortens_failHere (cause : Cause) : Shortens (failHere (α := α) cause) := nofun

theorem shortens_failAhead (cause : Cause) : Shortens (failAhead (α := α) cause) := nofun

theorem shortens_literal (cs : List Char) : Shortens (literal cs) := by
  induction cs with
  | nil => exact shortens_yield ()
  | cons wanted more ih =>
      refine shortens_look.bind fun c? => ?_
      cases c? with
      | none => exact shortens_failHere _
      | some c =>
          refine shortens_skip.bind fun _ => ?_
          split
          · exact ih
          · exact shortens_failHere _

theorem shortens_exponent : Shortens skipUnsigned.exponent := by
  have hDigits : Shortens (do if (← look).any Char.isDigit then skipDigits else
      skip
      failHere .invalidNumber : Reader Unit) := by
    refine shortens_look.bind fun first? => ?_
    split
    · exact shortens_skipDigits
    · exact shortens_skip.bind fun _ => shortens_failHere _
  refine shortens_skip.bind fun _ => shortens_look.bind fun sign? => ?_
  dsimp only
  split
  · exact shortens_skip.bind fun _ => hDigits
  · exact shortens_skip.bind fun _ => hDigits
  · exact (shortens_yield ()).bind fun _ => hDigits

theorem shortens_tail : Shortens skipUnsigned.tail := by
  refine shortens_look.bind fun c? => ?_
  split
  · refine shortens_skip.bind fun _ => shortens_look.bind fun first? => ?_
    split
    · refine shortens_skipDigits.bind fun _ => shortens_look.bind fun mark? => ?_
      split
      · exact shortens_exponent
      · exact shortens_pure ()
    · exact shortens_failAhead _
  · split
    · exact shortens_exponent
    · exact shortens_pure ()

theorem length_skipDigits_lt {c : Cursor} (h : c.peek?.any Char.isDigit = true) :
    (c.skipWhile Numeral.isDigit).rest.length < c.rest.length := by
  obtain ⟨rest, p⟩ := c
  cases rest with
  | nil => cases h
  | cons b rest =>
      rw [Cursor.skipWhile_of_keep rest p ((Numeral.isDigit_ofUInt8 b).symm.trans h)]
      exact Nat.lt_succ_of_le (length_skipWhile _ _)

/-- A number takes at least one byte. -/
theorem length_skipUnsigned {c next : Cursor} (h : skipUnsigned c = .done () next) :
    next.rest.length < c.rest.length := by
  rw [skipUnsigned, look_bind] at h
  cases hPeek : c.peek? with
  | none =>
      simp only [hPeek] at h
      cases h
  | some first =>
      by_cases hZero : first = '0'
      · simp only [hPeek, hZero] at h
        have hMore : Shortens (do
            if (← look).any Char.isDigit then failAhead .invalidNumber else skipUnsigned.tail :
              Reader Unit) := by
          refine shortens_look.bind fun next? => ?_
          split
          · exact shortens_failAhead _
          · exact shortens_tail
        exact Nat.lt_of_le_of_lt (hMore _ _ _ h) (length_advance_lt hPeek)
      · simp only [hPeek] at h
        cases hDigit : first.isDigit with
        | false =>
            simp only [hDigit, Bool.false_eq_true, ↓reduceIte] at h
            cases h
        | true =>
            simp only [hDigit, ↓reduceIte] at h
            refine Nat.lt_of_le_of_lt (shortens_tail _ _ _ h) (length_skipDigits_lt ?_)
            rw [hPeek]
            exact hDigit

theorem length_skipQuoted {c next : Cursor} (h : skipQuoted c = .done () next) :
    next.rest.length < c.rest.length :=
  Nat.lt_of_lt_of_le (Quoted.length_skipBody h) (length_advance c)

theorem length_pastBlanks (c : Cursor) : c.pastBlanks.rest.length ≤ c.rest.length := length_skipWhile _ c

theorem shortens_nextItem (first : Bool) : Shortens (nextItem first) := by
  intro c more next h
  have hHere := length_pastBlanks c
  have hBehind := Nat.le_trans (length_pastBlanks c.pastBlanks.advance) (length_advance c.pastBlanks)
  rcases nextItem_cases h with ⟨_, _, rfl⟩ | ⟨_, _, _, _, hNext⟩
  · exact hHere
  · cases first with
    | true => exact hNext ▸ hHere
    | false => exact hNext.2 ▸ Nat.le_trans hBehind hHere

theorem shortens_nextKey (first : Bool) : Shortens (nextKey first) := by
  intro c more next h
  have hHere := length_pastBlanks c
  have hBehind := Nat.le_trans (length_pastBlanks c.pastBlanks.advance) (length_advance c.pastBlanks)
  rcases nextKey_cases h with ⟨_, _, rfl⟩ | ⟨_, _, hNext⟩
  · exact hHere
  · cases first with
    | true => exact hNext ▸ hHere
    | false => exact hNext.2 ▸ Nat.le_trans hBehind hHere

theorem shortens_colon : Shortens colon := by
  refine shortens_lookPastBlanks.bind fun sign? => ?_
  split
  · exact shortens_skip
  · exact shortens_failAhead _
  · exact shortens_failAhead _

end Lengths

end Reader

end AuditDesk.Json
