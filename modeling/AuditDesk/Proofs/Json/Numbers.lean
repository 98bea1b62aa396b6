import AuditDesk.Json.ValueReader
import AuditDesk.Proofs.Json.Reading

/-! A written whole number is read back as long as 64 bits hold it. Its digits are all taken, since no
digit can stand behind the end of a value, and the first one is a zero for zero only. -/
namespace AuditDesk.Json

open Text

namespace Numeral

theorem toNat_of_isDigit {c : Char} (h : c.isDigit = true) : 48 ≤ c.toNat ∧ c.toNat ≤ 57 := by
  simp only [Char.isDigit, Bool.and_eq_true, decide_eq_true_eq, ge_iff_le, UInt32.le_iff_toNat_le] at h
  exact h

/-- A digit as a byte. -/
theorem digit_byte {c : Char} (h : c.isDigit = true) : ∃ b, String.utf8EncodeChar c = [b] ∧
    Char.ofUInt8 b = c ∧ digitOf b = some (c.toNat - 48) ∧ Cursor.isJsonBlank b = false := by
  obtain ⟨hLow, hHigh⟩ := toNat_of_isDigit h
  have hAll : ∀ n ≤ 57, 48 ≤ n →
      digitOf (UInt8.ofNat n) = some (n - 48) ∧ Cursor.isJsonBlank (UInt8.ofNat n) = false := by
    decide +kernel
  obtain ⟨hDigit, hBlank⟩ := hAll c.toNat hHigh hLow
  refine ⟨UInt8.ofNat c.toNat, utf8EncodeChar_of_ascii (by omega), ?_, hDigit, hBlank⟩
  apply Char.toNat_inj.mp
  change (UInt8.ofNat c.toNat).toNat = c.toNat
  rw [UInt8.toNat_ofNat']
  omega

theorem digitOf_of_ends {rest : List UInt8} (h : EndsValue rest) : ∀ b ∈ rest.head?, digitOf b = none := by
  have hAll : ∀ b ∈ [0x2C, 0x5D, 0x7D, 0x20, 0x0A, 0x09, 0x0D], digitOf b = none := by decide +kernel
  exact fun b hb => hAll b (h b hb)

theorem le_ofDigitChars (cs : List Char) (value : Nat) : value ≤ Nat.ofDigitChars 10 cs value := by
  induction cs generalizing value with
  | nil => exact Nat.le_refl _
  | cons c cs ih =>
      have hRest := ih (10 * value + (c.toNat - '0'.toNat))
      rw [Nat.ofDigitChars, List.foldl_cons, ← Nat.ofDigitChars]
      omega

theorem wordDigits_digits {cs : List Char} (hDigits : ∀ c ∈ cs, c.isDigit = true) (value count : Nat)
    (hWord : Nat.ofDigitChars 10 cs value ≤ maxWord) {rest : List UInt8} (hEnds : EndsValue rest) :
    wordDigits value count (encoded cs ++ rest) =
      (Nat.ofDigitChars 10 cs value, count + cs.length, rest) := by
  induction cs generalizing value count with
  | nil =>
      cases rest with
      | nil => rfl
      | cons b rest =>
          have hNone := digitOf_of_ends hEnds b rfl
          simp only [encoded_nil, List.nil_append, wordDigits, hNone]
          rfl
  | cons c cs ih =>
      obtain ⟨b, hBytes, _, hDigit, _⟩ := digit_byte (hDigits c List.mem_cons_self)
      have hValue : 10 * value + (c.toNat - '0'.toNat) = value * 10 + (c.toNat - 48) := by
        have hZero : '0'.toNat = 48 := rfl
        omega
      have hOf : Nat.ofDigitChars 10 (c :: cs) value =
          Nat.ofDigitChars 10 cs (value * 10 + (c.toNat - 48)) := by
        rw [← hValue]
        rfl
      rw [hOf] at hWord ⊢
      have hFits := Nat.le_trans (le_ofDigitChars cs _) hWord
      simp only [encoded_cons, hBytes, List.cons_append, List.nil_append, wordDigits,
        hDigit, if_pos hFits]
      rw [ih (fun d hd => hDigits d (List.mem_cons_of_mem _ hd)) _ _ hWord]
      simp [Nat.add_assoc, Nat.add_comm 1]

theorem forward_digits {cs : List Char} (hDigits : ∀ c ∈ cs, c.isDigit = true) (rest : List UInt8)
    (p : Position) : ∃ q, Cursor.forward cs.length ⟨encoded cs ++ rest, p⟩ = ⟨rest, q⟩ := by
  induction cs generalizing p with
  | nil => exact ⟨p, rfl⟩
  | cons c cs ih =>
      obtain ⟨b, hBytes, _⟩ := digit_byte (hDigits c List.mem_cons_self)
      obtain ⟨q, hRest⟩ := ih (fun d hd => hDigits d (List.mem_cons_of_mem _ hd)) (p.after b)
      refine ⟨q, ?_⟩
      rw [encoded_cons, hBytes]
      exact hRest

/-- The digits of a number other than zero do not begin with a zero. -/
theorem head_toDigits {n : Nat} (h : 0 < n) : ∀ c ∈ (Nat.toDigits 10 n).head?, c ≠ '0' := by
  induction n using Nat.strongRecOn with
  | ind n ih =>
      rw [Nat.toDigits_eq_if (by decide)]
      split
      · rename_i hSmall
        have hAll : ∀ n < 10, 0 < n → Nat.digitChar n ≠ '0' := by decide
        rintro c ⟨⟩
        exact hAll n hSmall h
      · have hHead : (Nat.toDigits 10 (n / 10) ++ [(n % 10).digitChar]).head? = (Nat.toDigits 10 (n / 10)).head? := by
          rw [List.head?_append]
          cases hDigits : Nat.toDigits 10 (n / 10) with
          | nil => exact absurd hDigits Nat.toDigits_ne_nil
          | cons c cs => rfl
        rw [hHead]
        exact ih (n / 10) (by omega) (by omega)

end Numeral

namespace Reader

open Numeral

section Ends

variable {rest : List UInt8} (h : EndsValue rest) (p : Position)

include h

/-- No number goes on where a value has to end. -/
theorem peek_of_ends : (⟨rest, p⟩ : Cursor).peek?.any Char.isDigit = false ∧
    (⟨rest, p⟩ : Cursor).peek? ≠ some '.' ∧ isExponentMark (⟨rest, p⟩ : Cursor).peek? = false := by
  cases rest with
  | nil => exact ⟨rfl, nofun, rfl⟩
  | cons b rest =>
      have hAll : ∀ b ∈ [0x2C, 0x5D, 0x7D, 0x20, 0x0A, 0x09, 0x0D], (Char.ofUInt8 b).isDigit = false ∧
          Char.ofUInt8 b ≠ '.' ∧ isExponentMark (some (Char.ofUInt8 b)) = false := by
        decide +kernel
      obtain ⟨hDigit, hPoint, hExponent⟩ := hAll b (h b rfl)
      exact ⟨hDigit, fun hSome => hPoint (Option.some.inj hSome), hExponent⟩

theorem tail_positive (n : Nat) : unsignedNumber.tail true n ⟨rest, p⟩ = .done (.integer n) ⟨rest, p⟩ := by
  obtain ⟨_, hPoint, hExponent⟩ := peek_of_ends h p
  have hLook : look ⟨rest, p⟩ = .done (⟨rest, p⟩ : Cursor).peek? ⟨rest, p⟩ := rfl
  rw [unsignedNumber.tail, bind_of_done _ hLook, if_neg hPoint, hExponent]
  rfl

theorem tail_negative {n : Nat} (hPositive : 0 < n) (hWord : n ≤ 9223372036854775808) :
    unsignedNumber.tail false n ⟨rest, p⟩ = .done (.integer (-n)) ⟨rest, p⟩ := by
  obtain ⟨_, hPoint, hExponent⟩ := peek_of_ends h p
  have hLook : look ⟨rest, p⟩ = .done (⟨rest, p⟩ : Cursor).peek? ⟨rest, p⟩ := rfl
  have hWhole : ¬(decide (n = 0) || decide (9223372036854775808 < n)) = true := by
    simp
    omega
  rw [unsignedNumber.tail, bind_of_done _ hLook, if_neg hPoint, hExponent, if_neg Bool.false_ne_true,
    if_neg Bool.false_ne_true, if_neg hWhole]
  rfl

/-- The digits are read as a whole, after which only the end can come. -/
theorem unsignedNumber_digits (positive : Bool) {n : Nat} (hWord : n ≤ maxWord) : ∃ q,
    unsignedNumber positive ⟨encoded (Nat.toDigits 10 n) ++ rest, p⟩ =
      unsignedNumber.tail positive n ⟨rest, q⟩ := by
  have hLook : ∀ c : Cursor, look c = .done c.peek? c := fun _ => rfl
  rcases Nat.eq_zero_or_pos n with rfl | hPositive
  · have hSkip : skip ⟨0x30 :: rest, p⟩ = .done () ⟨rest, p.after 0x30⟩ := rfl
    refine ⟨p.after 0x30, ?_⟩
    change unsignedNumber positive ⟨0x30 :: rest, p⟩ = _
    rw [unsignedNumber, bind_of_done _ (hLook _)]
    change (skip >>= _) ⟨0x30 :: rest, p⟩ = _
    rw [bind_of_done _ hSkip, bind_of_done _ (hLook _), (peek_of_ends h _).1]
    rfl
  · have hDigits : ∀ c ∈ Nat.toDigits 10 n, c.isDigit = true := fun c hc =>
      Nat.isDigit_of_mem_toDigits (by decide) (by decide) hc
    have hValue : Nat.ofDigitChars 10 (Nat.toDigits 10 n) 0 = n := Nat.ofDigitChars_toDigits (by decide) (by decide)
    have hHead := head_toDigits hPositive
    obtain ⟨q, hForward⟩ := forward_digits hDigits rest p
    have hSignificand : significand 0 ⟨encoded (Nat.toDigits 10 n) ++ rest, p⟩ =
        .done (n, (Nat.toDigits 10 n).length) ⟨rest, q⟩ := by
      have hTaken := wordDigits_digits hDigits 0 0 (by rw [hValue]; exact hWord) h
      rw [hValue, Nat.zero_add] at hTaken
      simp only [significand, hTaken, hForward]
    refine ⟨q, ?_⟩
    cases hText : Nat.toDigits 10 n with
    | nil => exact absurd hText Nat.toDigits_ne_nil
    | cons c cs =>
        rw [hText] at hSignificand hDigits hHead
        obtain ⟨b, hBytes, hChar, _⟩ := digit_byte (hDigits c List.mem_cons_self)
        have hNotZero := hHead c rfl
        have hPeek : (⟨encoded (c :: cs) ++ rest, p⟩ : Cursor).peek? = some c := by
          rw [encoded_cons, hBytes]
          exact congrArg some hChar
        rw [unsignedNumber, bind_of_done _ (hLook _), hPeek]
        simp only [hDigits c List.mem_cons_self, ↓reduceIte]
        rw [bind_of_done _ hSignificand, bind_of_done _ (hLook _), (peek_of_ends h _).1]
        rfl

end Ends

section Texts

theorem toList_text_ofNat (n : Nat) : (Number.integer n).text.toList = Nat.toDigits 10 n :=
  String.toList_ofList

theorem toList_text_negSucc (n : Nat) :
    (Number.integer (.negSucc n)).text.toList = '-' :: Nat.toDigits 10 (n + 1) := by
  change ("-" ++ String.ofList (Nat.toDigits 10 (n + 1))).toList = _
  simp

theorem scalar?_digit {c : Char} (hDigit : c.isDigit = true) :
    scalar? c = some (do return .number (← unsignedNumber true)) := by
  unfold scalar?
  split
  case h_6 => rw [if_pos hDigit]
  all_goals cases hDigit

/-- A written whole number stands as a scalar where it is read. -/
theorem scalar_integer {i : Int} (hLow : -9223372036854775808 ≤ i) (hHigh : i ≤ 18446744073709551615) :
    ∃ first more r, (Number.integer i).text.toList = first :: more ∧ opensValue first = true ∧
      scalar? first = some r ∧ ∀ rest p, EndsValue rest →
        ∃ q, r ⟨encoded (first :: more) ++ rest, p⟩ = .done (.number (.integer i)) ⟨rest, q⟩ := by
  cases i with
  | ofNat n =>
      have hWord : n ≤ maxWord := by
        rw [Int.ofNat_eq_natCast] at hHigh
        change n ≤ 18446744073709551615
        omega
      rw [Int.ofNat_eq_natCast, toList_text_ofNat]
      cases hText : Nat.toDigits 10 n with
      | nil => exact absurd hText Nat.toDigits_ne_nil
      | cons c cs =>
          have hDigit : c.isDigit = true :=
            Nat.isDigit_of_mem_toDigits (by decide) (by decide) (hText ▸ List.mem_cons_self)
          refine ⟨c, cs, _, rfl, by simp [opensValue, hDigit], scalar?_digit hDigit, ?_⟩
          intro rest p hEnds
          obtain ⟨q, hDigits⟩ := unsignedNumber_digits hEnds p true hWord
          refine ⟨q, ?_⟩
          rw [← hText, bind_of_done _ (hDigits.trans (tail_positive hEnds q n))]
          rfl
  | negSucc n =>
      have hWord : n + 1 ≤ 9223372036854775808 := by omega
      rw [toList_text_negSucc]
      refine ⟨'-', _, _, rfl, rfl, rfl, ?_⟩
      intro rest p hEnds
      obtain ⟨q, hDigits⟩ := unsignedNumber_digits hEnds (p.after 0x2D) false (Nat.le_trans hWord (by decide))
      have hSkip : skip ⟨encoded ('-' :: Nat.toDigits 10 (n + 1)) ++ rest, p⟩ =
          .done () ⟨encoded (Nat.toDigits 10 (n + 1)) ++ rest, p.after 0x2D⟩ := rfl
      refine ⟨q, ?_⟩
      rw [bind_of_done _ hSkip,
        bind_of_done _ (hDigits.trans (tail_negative hEnds q (Nat.succ_pos n) hWord))]
      rfl

end Texts

end Reader

end AuditDesk.Json
