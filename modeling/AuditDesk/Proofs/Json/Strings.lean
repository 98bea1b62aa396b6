import AuditDesk.Json.Printer
import AuditDesk.Json.Quoted
import AuditDesk.Proofs.Json.Reading

/-! A written string is read back as it was, whatever characters it holds: those that are escaped come
back from their escapes, and no byte of any other is taken for a quote, a backslash or a control
character. -/
namespace AuditDesk.Json

open Text

namespace Quoted

@[simp] theorem after_nil (p : Position) : after p [] = p := rfl

@[simp] theorem after_cons (p : Position) (b : UInt8) (bs : List UInt8) :
    after p (b :: bs) = after (p.after b) bs := rfl

@[simp] theorem after_append (p : Position) (front back : List UInt8) :
    after p (front ++ back) = after (after p front) back := by
  simp [after]

/-- The bytes that stand for themselves between quotes. -/
def IsPlain (b : UInt8) : Prop := b ≠ 0x22 ∧ b ≠ 0x5C ∧ ¬b < 0x20

theorem body_of_plain {bs : List UInt8} (h : ∀ b ∈ bs, IsPlain b) (collected : List UInt8)
    (p : Position) (rest : List UInt8) :
    body collected p (bs ++ rest) = body (bs.reverse ++ collected) (after p bs) rest := by
  induction bs generalizing collected p with
  | nil => rfl
  | cons b bs ih =>
      obtain ⟨hQuote, hBackslash, hControl⟩ := h b (List.mem_cons_self ..)
      have hRest : ∀ b ∈ bs, IsPlain b := fun b hb => h b (List.mem_cons_of_mem _ hb)
      rw [List.cons_append, body, if_neg hQuote, if_neg hBackslash, if_neg hControl, ih hRest]
      simp

theorem body_simpleEscape {e decoded : UInt8} (h : simpleEscape (Char.ofUInt8 e) = some decoded)
    (hUnicode : e ≠ 0x75) (collected : List UInt8) (p : Position) (rest : List UInt8) :
    body collected p (0x5C :: e :: rest) =
      body (decoded :: collected) (after p [0x5C, e]) rest := by
  rw [body.eq_def]
  simp [h, hUnicode]

theorem hexValue_hexDigit {n : Nat} (h : n < 16) :
    hexValue (UInt8.ofNat (hexDigit n).toNat) = some n := by
  have hAll : ∀ n < 16, hexValue (UInt8.ofNat (hexDigit n).toNat) = some n := by decide
  exact hAll n h

theorem body_controlEscape {c : Char} (h : c.toNat < 0x20) (collected : List UInt8) (p : Position)
    (rest : List UInt8) :
    body collected p
        (encoded ['\\', 'u', '0', '0', hexDigit (c.toNat / 16), hexDigit (c.toNat % 16)] ++ rest) =
      body ((String.utf8EncodeChar c).reverse ++ collected)
        (after p (encoded ['\\', 'u', '0', '0', hexDigit (c.toNat / 16), hexDigit (c.toNat % 16)]))
        rest := by
  have hAscii : ∀ n < 16, (hexDigit n).toNat < 0x80 := by decide
  have hHigh := hexValue_hexDigit (n := c.toNat / 16) (by omega)
  have hLow := hexValue_hexDigit (n := c.toNat % 16) (by omega)
  have hUnit : hexValue4 0x30 0x30 (UInt8.ofNat (hexDigit (c.toNat / 16)).toNat)
      (UInt8.ofNat (hexDigit (c.toNat % 16)).toNat) = some c.toNat := by
    have hZero : hexValue 0x30 = some 0 := by decide
    simp only [hexValue4, hHigh, hLow, hZero, Option.bind_eq_bind, Option.bind_some, Option.pure_def]
    congr 1
    omega
  have hTrailing : isTrailing c.toNat = false := by simp [isTrailing]; omega
  have hLeading : isLeading c.toNat = false := by simp [isLeading]; omega
  have hBytes : encoded ['\\', 'u', '0', '0', hexDigit (c.toNat / 16), hexDigit (c.toNat % 16)] =
      [0x5C, 0x75, 0x30, 0x30, UInt8.ofNat (hexDigit (c.toNat / 16)).toNat,
        UInt8.ofNat (hexDigit (c.toNat % 16)).toNat] := by
    simp only [encoded_cons, utf8EncodeChar_of_ascii (hAscii _ (by omega : c.toNat / 16 < 16)),
      utf8EncodeChar_of_ascii (hAscii _ (by omega : c.toNat % 16 < 16))]
    rfl
  rw [hBytes]
  simp only [List.cons_append, List.nil_append]
  rw [body.eq_def]
  simp [hUnit, hTrailing, hLeading, encodedScalar]

theorem isPlain_of_mem {c : Char} (hQuote : c ≠ '"') (hBackslash : c ≠ '\\')
    (hControl : ¬c.toNat < 0x20) {b : UInt8} (hb : b ∈ String.utf8EncodeChar c) : IsPlain b := by
  by_cases hAscii : c.toNat < 0x80
  · rw [utf8EncodeChar_of_ascii hAscii, List.mem_singleton] at hb
    have hValue : b.toNat = c.toNat := by
      rw [hb, UInt8.toNat_ofNat']
      omega
    refine ⟨?_, ?_, ?_⟩
    · rintro rfl
      exact hQuote (Char.toNat_inj.mp hValue.symm)
    · rintro rfl
      exact hBackslash (Char.toNat_inj.mp hValue.symm)
    · rw [UInt8.lt_iff_toNat_lt, hValue]
      exact hControl
  · have hLe := le_of_mem_utf8EncodeChar (by omega) hb
    refine ⟨?_, ?_, ?_⟩
    · rintro rfl
      exact absurd hLe (by decide)
    · rintro rfl
      exact absurd hLe (by decide)
    · rw [UInt8.lt_iff_toNat_lt]
      change ¬b.toNat < 0x20
      omega

/-- Each character is collected as its own bytes, however it is written. -/
theorem body_escapeChar (c : Char) (collected : List UInt8) (p : Position) (rest : List UInt8) :
    body collected p (encoded (escapeChar c) ++ rest) =
      body ((String.utf8EncodeChar c).reverse ++ collected) (after p (encoded (escapeChar c)))
        rest := by
  by_cases hSpecial : c ∈ ['"', '\\', '\n', '\r', '\t', '\x08', '\x0c']
  · simp only [List.mem_cons, List.not_mem_nil, or_false] at hSpecial
    rcases hSpecial with rfl | rfl | rfl | rfl | rfl | rfl | rfl <;>
      exact body_simpleEscape (by decide) (by decide) collected p rest
  simp only [List.mem_cons, List.not_mem_nil, or_false, not_or] at hSpecial
  obtain ⟨hQuote, hBackslash, hLine, hReturn, hTab, hBack, hForm⟩ := hSpecial
  by_cases hControl : c.toNat < 0x20
  · have hEscape : escapeChar c =
        ['\\', 'u', '0', '0', hexDigit (c.toNat / 16), hexDigit (c.toNat % 16)] := by
      simp only [escapeChar, hQuote, hBackslash, hLine, hReturn, hTab, hBack, hForm, hControl,
        ↓reduceIte]
    rw [hEscape]
    exact body_controlEscape hControl collected p rest
  · have hEscape : escapeChar c = [c] := by
      simp only [escapeChar, hQuote, hBackslash, hLine, hReturn, hTab, hBack, hForm, hControl,
        ↓reduceIte]
    rw [hEscape, encoded_cons, encoded_nil, List.append_nil]
    exact body_of_plain (fun b hb => isPlain_of_mem hQuote hBackslash hControl hb) collected p rest

theorem body_written (cs : List Char) (collected : List UInt8) (p : Position) (rest : List UInt8) :
    body collected p (encoded (cs.flatMap escapeChar) ++ 0x22 :: rest) =
      .done (collected.reverse ++ encoded cs)
        ⟨rest, after p (encoded (cs.flatMap escapeChar) ++ [0x22])⟩ := by
  induction cs generalizing collected p with
  | nil => simp [body]
  | cons c cs ih =>
      rw [List.flatMap_cons, encoded_append, List.append_assoc, body_escapeChar, ih]
      simp

end Quoted

/-- A string in quotes is understood whatever comes next. -/
theorem Reader.quoted_written (s : String) (rest : List UInt8) (p : Position) :
    Reader.quoted ⟨encoded (quotedChars s) ++ rest, p⟩ =
      .done s ⟨rest, Quoted.after p (encoded (quotedChars s))⟩ := by
  have hQuote : String.utf8EncodeChar '"' = [0x22] := rfl
  have hText : encoded (quotedChars s) ++ rest =
      0x22 :: (encoded (s.toList.flatMap escapeChar) ++ 0x22 :: rest) := by
    simp [quotedChars, hQuote]
  have hBody := Quoted.body_written s.toList [] (p.after 0x22) rest
  rw [hText]
  simp only [Reader.quoted, Cursor.advance, hBody, List.reverse_nil, List.nil_append,
    encoded_toList, ofBytes?_bytes]
  simp [quotedChars, hQuote]

end AuditDesk.Json
