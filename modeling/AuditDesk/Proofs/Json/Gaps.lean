import AuditDesk.Proofs.Json.Forms
import AuditDesk.Proofs.Json.Numbers

/-! What stands between the parts of a text: gaps of white space, commas and colons. Readers go over all of
it to the next part, whatever comes behind that. -/
namespace AuditDesk.Json

open Text

namespace Reader

section Gaps

theorem toNat_of_opensValue {c : Char} (h : opensValue c = true) :
    c.toNat < 0x80 ∧ Cursor.isJsonBlank (UInt8.ofNat c.toNat) = false := by
  simp only [opensValue, Bool.or_eq_true, List.contains_eq_mem, List.mem_cons, List.not_mem_nil,
    or_false, decide_eq_true_eq] at h
  rcases h with hDigit | rfl | rfl | rfl | rfl | rfl | rfl | rfl
  · obtain ⟨hLow, hHigh⟩ := Numeral.toNat_of_isDigit hDigit
    have hAll : ∀ n ≤ 57, 48 ≤ n → Cursor.isJsonBlank (UInt8.ofNat n) = false := by decide
    exact ⟨by omega, hAll c.toNat hHigh hLow⟩
  all_goals decide

theorem pastBlanks_of_not {b : UInt8} (h : Cursor.isJsonBlank b = false) (rest : List UInt8) (p : Position) :
    (⟨b :: rest, p⟩ : Cursor).pastBlanks = ⟨b :: rest, p⟩ := Cursor.skipWhile_of_not rest p h

/-- What opens a value is one byte. -/
theorem opening_byte {c : Char} (h : opensValue c = true) : ∃ b, String.utf8EncodeChar c = [b] ∧
    Char.ofUInt8 b = c ∧ Cursor.isJsonBlank b = false := by
  obtain ⟨hAscii, hBlank⟩ := toNat_of_opensValue h
  refine ⟨_, utf8EncodeChar_of_ascii hAscii, ?_, hBlank⟩
  apply Char.toNat_inj.mp
  change (UInt8.ofNat c.toNat).toNat = c.toNat
  rw [UInt8.toNat_ofNat']
  omega

theorem pastBlanks_opening {c : Char} (h : opensValue c = true) (cs : List Char) (rest : List UInt8)
    (p : Position) : (⟨encoded (c :: cs) ++ rest, p⟩ : Cursor).pastBlanks = ⟨encoded (c :: cs) ++ rest, p⟩ ∧
      (⟨encoded (c :: cs) ++ rest, p⟩ : Cursor).peek? = some c := by
  obtain ⟨b, hByte, hChar, hBlank⟩ := opening_byte h
  rw [encoded_cons, hByte, List.append_assoc, List.singleton_append]
  exact ⟨pastBlanks_of_not hBlank _ p, congrArg some hChar⟩

/-- A gap is passed over. -/
theorem pastBlanks_gap {gap : List Char} (h : ∀ c ∈ gap, IsBlank c) (rest : List UInt8) (p : Position) :
    ∃ q, (⟨encoded gap ++ rest, p⟩ : Cursor).pastBlanks = (⟨rest, q⟩ : Cursor).pastBlanks := by
  induction gap generalizing p with
  | nil => exact ⟨p, rfl⟩
  | cons c gap ih =>
      obtain ⟨b, hBytes, hBlank⟩ : ∃ b, String.utf8EncodeChar c = [b] ∧ Cursor.isJsonBlank b = true := by
        rcases h c List.mem_cons_self with rfl | rfl | rfl | rfl
        · exact ⟨0x20, rfl, rfl⟩
        · exact ⟨0x0A, rfl, rfl⟩
        · exact ⟨0x09, rfl, rfl⟩
        · exact ⟨0x0D, rfl, rfl⟩
      obtain ⟨q, hRest⟩ := ih (fun d hd => h d (List.mem_cons_of_mem _ hd)) (p.after b)
      refine ⟨q, ?_⟩
      rw [← hRest, encoded_cons, hBytes]
      exact Cursor.skipWhile_of_keep _ p hBlank

theorem endsValue_gap {gap : List Char} (h : ∀ c ∈ gap, IsBlank c) {rest : List UInt8}
    (hRest : EndsValue rest) : EndsValue (encoded gap ++ rest) := by
  cases gap with
  | nil => exact hRest
  | cons c gap =>
      rcases h c List.mem_cons_self with rfl | rfl | rfl | rfl <;> rintro b ⟨⟩ <;> decide

theorem endsValue_close {b : UInt8} (h : b ∈ [0x2C, 0x5D, 0x7D, 0x20, 0x0A, 0x09, 0x0D]) (rest : List UInt8) :
    EndsValue (b :: rest) := by
  rintro _ ⟨⟩
  exact h

end Gaps

section Signs

variable {c : Cursor}

theorem nextItem_of_close (first : Bool) (h : c.pastBlanks.peek? = some ']') :
    nextItem first c = .done false c.pastBlanks := bind_of_done _ (lookPastBlanks_of_peek h)

theorem nextItem_of_first {sign : Char} (h : c.pastBlanks.peek? = some sign) (hOpen : sign ≠ ']') :
    nextItem true c = .done true c.pastBlanks := by
  refine (bind_of_done _ (lookPastBlanks_of_peek h)).trans ?_
  simp only
  rfl

theorem nextItem_of_comma {sign : Char} (h : c.pastBlanks.peek? = some ',')
    (hBehind : c.pastBlanks.advance.pastBlanks.peek? = some sign) (hOpen : sign ≠ ']') :
    nextItem false c = .done true c.pastBlanks.advance.pastBlanks := by
  have hSkip : skip c.pastBlanks = .done () c.pastBlanks.advance := rfl
  refine (bind_of_done _ (lookPastBlanks_of_peek h)).trans ?_
  change (skip >>= _) c.pastBlanks = _
  rw [bind_of_done _ hSkip, bind_of_done _ (lookPastBlanks_of_peek hBehind)]
  simp only
  rfl

theorem nextKey_of_close (first : Bool) (h : c.pastBlanks.peek? = some '\x7d') :
    nextKey first c = .done false c.pastBlanks := bind_of_done _ (lookPastBlanks_of_peek h)

theorem nextKey_of_first (h : c.pastBlanks.peek? = some '"') : nextKey true c = .done true c.pastBlanks :=
  bind_of_done _ (lookPastBlanks_of_peek h)

theorem nextKey_of_comma (h : c.pastBlanks.peek? = some ',')
    (hBehind : c.pastBlanks.advance.pastBlanks.peek? = some '"') :
    nextKey false c = .done true c.pastBlanks.advance.pastBlanks := by
  have hSkip : skip c.pastBlanks = .done () c.pastBlanks.advance := rfl
  refine (bind_of_done _ (lookPastBlanks_of_peek h)).trans ?_
  change (skip >>= _) c.pastBlanks = _
  rw [bind_of_done _ hSkip, bind_of_done _ (lookPastBlanks_of_peek hBehind)]
  rfl

theorem closeArray_cons (rest : List UInt8) (p : Position) :
    closeArray ⟨0x5D :: rest, p⟩ = .done () ⟨rest, p.after 0x5D⟩ :=
  bind_of_done _ (lookPastBlanks_of_not (b := 0x5D) rest p (by decide))

theorem closeObject_cons (rest : List UInt8) (p : Position) :
    closeObject ⟨0x7D :: rest, p⟩ = .done () ⟨rest, p.after 0x7D⟩ :=
  bind_of_done _ (lookPastBlanks_of_not (b := 0x7D) rest p (by decide))

theorem colon_cons (rest : List UInt8) (p : Position) :
    colon ⟨0x3A :: rest, p⟩ = .done () ⟨rest, p.after 0x3A⟩ := by
  refine (bind_of_done _ (lookPastBlanks_of_not (b := 0x3A) rest p (by decide))).trans ?_
  rfl

end Signs

section Parts

variable {gap : List Char} (hBlank : ∀ c ∈ gap, IsBlank c)
include hBlank

/-- Behind the comma, if there has to be one, and the gap something begins. -/
theorem pastBlanks_part (first : Bool) {sign : Char} (hOpens : opensValue sign = true) (cs : List Char)
    (rest : List UInt8) (p : Position) : ∃ c q,
    c = (⟨encoded ((if first then [] else [',']) ++ (gap ++ sign :: cs)) ++ rest, p⟩ : Cursor) ∧
      if first then c.pastBlanks = ⟨encoded (sign :: cs) ++ rest, q⟩
      else c.pastBlanks.peek? = some ',' ∧
        c.pastBlanks.advance.pastBlanks = ⟨encoded (sign :: cs) ++ rest, q⟩ := by
  have hGap : ∀ p, ∃ q, (⟨encoded (gap ++ sign :: cs) ++ rest, p⟩ : Cursor).pastBlanks =
      ⟨encoded (sign :: cs) ++ rest, q⟩ := by
    intro p
    obtain ⟨q, hBlanks⟩ := pastBlanks_gap hBlank (encoded (sign :: cs) ++ rest) p
    refine ⟨q, ?_⟩
    rw [encoded_append, List.append_assoc, hBlanks, (pastBlanks_opening hOpens cs rest q).1]
  cases first with
  | true =>
      obtain ⟨q, hBlanks⟩ := hGap p
      exact ⟨_, q, rfl, hBlanks⟩
  | false =>
      obtain ⟨q, hBlanks⟩ := hGap (p.after 0x2C)
      have hComma : (⟨0x2C :: (encoded (gap ++ sign :: cs) ++ rest), p⟩ : Cursor).pastBlanks =
          ⟨0x2C :: (encoded (gap ++ sign :: cs) ++ rest), p⟩ := pastBlanks_of_not (by decide) _ p
      refine ⟨⟨0x2C :: (encoded (gap ++ sign :: cs) ++ rest), p⟩, q, rfl, ?_⟩
      rw [if_neg Bool.false_ne_true, hComma]
      exact ⟨rfl, hBlanks⟩

theorem nextItem_gap (first : Bool) {sign : Char} (hOpens : opensValue sign = true) (cs : List Char)
    (rest : List UInt8) (p : Position) : ∃ q,
    nextItem first ⟨encoded ((if first then [] else [',']) ++ (gap ++ sign :: cs)) ++ rest, p⟩ =
      .done true ⟨encoded (sign :: cs) ++ rest, q⟩ := by
  have hNotClose : sign ≠ ']' := by
    rintro rfl
    exact absurd hOpens (by decide)
  obtain ⟨c, q, hText, hStart⟩ := pastBlanks_part hBlank first hOpens cs rest p
  have hPeek := (pastBlanks_opening hOpens cs rest q).2
  refine ⟨q, ?_⟩
  rw [← hText]
  cases first with
  | true =>
      obtain hStart : c.pastBlanks = _ := hStart
      rw [nextItem_of_first (hStart ▸ hPeek) hNotClose, hStart]
  | false =>
      obtain ⟨hComma, hStart⟩ := hStart
      rw [nextItem_of_comma hComma (hStart ▸ hPeek) hNotClose, hStart]

theorem nextKey_gap (first : Bool) (cs : List Char) (rest : List UInt8) (p : Position) : ∃ q,
    nextKey first ⟨encoded ((if first then [] else [',']) ++ (gap ++ '"' :: cs)) ++ rest, p⟩ =
      .done true ⟨encoded ('"' :: cs) ++ rest, q⟩ := by
  have hOpens : opensValue '"' = true := by decide
  obtain ⟨c, q, hText, hStart⟩ := pastBlanks_part hBlank first hOpens cs rest p
  have hPeek := (pastBlanks_opening hOpens cs rest q).2
  refine ⟨q, ?_⟩
  rw [← hText]
  cases first with
  | true =>
      obtain hStart : c.pastBlanks = _ := hStart
      rw [nextKey_of_first (hStart ▸ hPeek), hStart]
  | false =>
      obtain ⟨hComma, hStart⟩ := hStart
      rw [nextKey_of_comma hComma (hStart ▸ hPeek), hStart]

/-- Behind the gap the array is over. -/
theorem nextItem_close (first : Bool) (rest : List UInt8) (p : Position) : ∃ q,
    nextItem first ⟨encoded gap ++ 0x5D :: rest, p⟩ = .done false ⟨0x5D :: rest, q⟩ := by
  obtain ⟨q, hBlanks⟩ := pastBlanks_gap hBlank (0x5D :: rest) p
  have hStart : (⟨encoded gap ++ 0x5D :: rest, p⟩ : Cursor).pastBlanks = ⟨0x5D :: rest, q⟩ :=
    hBlanks.trans (pastBlanks_of_not (by decide) rest q)
  refine ⟨q, ?_⟩
  rw [nextItem_of_close first (by rw [hStart]; rfl), hStart]

/-- Behind the gap the object is over. -/
theorem nextKey_close (first : Bool) (rest : List UInt8) (p : Position) : ∃ q,
    nextKey first ⟨encoded gap ++ 0x7D :: rest, p⟩ = .done false ⟨0x7D :: rest, q⟩ := by
  obtain ⟨q, hBlanks⟩ := pastBlanks_gap hBlank (0x7D :: rest) p
  have hStart : (⟨encoded gap ++ 0x7D :: rest, p⟩ : Cursor).pastBlanks = ⟨0x7D :: rest, q⟩ :=
    hBlanks.trans (pastBlanks_of_not (by decide) rest q)
  refine ⟨q, ?_⟩
  rw [nextKey_of_close first (by rw [hStart]; rfl), hStart]

end Parts

end Reader

end AuditDesk.Json
