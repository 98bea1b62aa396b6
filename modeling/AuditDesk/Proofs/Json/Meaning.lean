import AuditDesk.Proofs.Json.Endings
import AuditDesk.Proofs.Json.Spelling
import AuditDesk.Proofs.Json.Strings

/-! A spelled text is read as the characters that it means, and not read at all when half of a surrogate
pair stands alone. Passing over it asks for less: every spelled text is passed over. -/
namespace AuditDesk.Json

open Text

namespace Spelling

section Halves

open Quoted (isLeading isTrailing joined)

variable {a b c d : HexDigit} {pieces : List Piece}

theorem meaning_trailing (h : isTrailing (Piece.unit a b c d) = true) :
    meaning (.unicode a b c d :: pieces) = none := by
  rw [meaning.eq_def]
  exact if_pos h

variable (hTrailing : ¬isTrailing (Piece.unit a b c d) = true)
include hTrailing

theorem meaning_unit (h : ¬isLeading (Piece.unit a b c d) = true) :
    meaning (.unicode a b c d :: pieces) = (meaning pieces).map (Char.ofNat (Piece.unit a b c d) :: ·) := by
  rw [meaning.eq_def]
  simp only
  rw [if_neg hTrailing, if_neg h]

variable (hLeading : isLeading (Piece.unit a b c d) = true)
include hLeading

theorem meaning_alone (h : ∀ e f g h more, pieces ≠ .unicode e f g h :: more) :
    meaning (.unicode a b c d :: pieces) = none := by
  rw [meaning.eq_def]
  simp only
  rw [if_neg hTrailing, if_pos hLeading]

theorem meaning_pair {e f g h : HexDigit} (hPaired : isTrailing (Piece.unit e f g h) = true) :
    meaning (.unicode a b c d :: .unicode e f g h :: pieces) =
      (meaning pieces).map (Char.ofNat (joined (Piece.unit a b c d) (Piece.unit e f g h)) :: ·) := by
  rw [meaning.eq_def]
  simp only
  rw [if_neg hTrailing, if_pos hLeading, if_pos hPaired]

theorem meaning_unpaired {e f g h : HexDigit} (hPaired : ¬isTrailing (Piece.unit e f g h) = true) :
    meaning (.unicode a b c d :: .unicode e f g h :: pieces) = none := by
  rw [meaning.eq_def]
  simp only
  rw [if_neg hTrailing, if_pos hLeading, if_neg hPaired]

end Halves

theorem hexValue_digit (d : HexDigit) :
    ∃ b, String.utf8EncodeChar d.1 = [b] ∧ Quoted.hexValue b = some d.value := by
  obtain ⟨c, hMem⟩ := d
  have hAll : "0123456789abcdefABCDEF".toList.all (fun c => c.toNat < 0x80 &&
      Quoted.hexValue (UInt8.ofNat c.toNat) ==
        some (if c.isDigit then c.toNat - '0'.toNat
          else if c.isLower then c.toNat - 'a'.toNat + 10
          else c.toNat - 'A'.toNat + 10)) = true := by
    decide +kernel
  have hThis := List.all_eq_true.mp hAll c hMem
  rw [Bool.and_eq_true, decide_eq_true_eq, beq_iff_eq] at hThis
  obtain ⟨hAscii, hValue⟩ := hThis
  exact ⟨_, utf8EncodeChar_of_ascii hAscii, hValue⟩

/-- A spelled out code unit as bytes. -/
theorem unicode_bytes (a b c d : HexDigit) : ∃ w x y z,
    Quoted.hexValue4 w x y z = some (Piece.unit a b c d) ∧ ∀ pieces tail,
      encoded ((.unicode a b c d :: pieces).flatMap Piece.chars) ++ tail =
        0x5C :: 0x75 :: w :: x :: y :: z :: (encoded (pieces.flatMap Piece.chars) ++ tail) := by
  obtain ⟨w, hW, hA⟩ := hexValue_digit a
  obtain ⟨x, hX, hB⟩ := hexValue_digit b
  obtain ⟨y, hY, hC⟩ := hexValue_digit c
  obtain ⟨z, hZ, hD⟩ := hexValue_digit d
  have hBackslash : String.utf8EncodeChar '\\' = [0x5C] := rfl
  have hSign : String.utf8EncodeChar 'u' = [0x75] := rfl
  refine ⟨w, x, y, z, ?_, fun pieces tail => by simp [Piece.chars, hBackslash, hSign, hW, hX, hY, hZ]⟩
  simp only [Quoted.hexValue4, hA, hB, hC, hD, Option.bind_eq_bind, Option.bind_some, Option.pure_def,
    Piece.unit, Option.some.injEq]
  omega

theorem escape_bytes {sign stands : Char} (h : (sign, stands) ∈ escapes) : ∃ e decoded, e ≠ 0x75 ∧
    Quoted.simpleEscape (Char.ofUInt8 e) = some decoded ∧ String.utf8EncodeChar stands = [decoded] ∧
      ∀ pieces tail, encoded ((.escape sign stands h :: pieces).flatMap Piece.chars) ++ tail =
        0x5C :: e :: (encoded (pieces.flatMap Piece.chars) ++ tail) := by
  have hAll : ∀ m ∈ escapes, m.1.toNat < 0x80 ∧ UInt8.ofNat m.1.toNat ≠ 0x75 ∧
      Quoted.simpleEscape (Char.ofUInt8 (UInt8.ofNat m.1.toNat)) = some (UInt8.ofNat m.2.toNat) ∧
      m.2.toNat < 0x80 := by
    decide
  obtain ⟨hAscii, hUnicode, hSimple, hStands⟩ := hAll (sign, stands) h
  have hBackslash : String.utf8EncodeChar '\\' = [0x5C] := rfl
  exact ⟨_, _, hUnicode, hSimple, utf8EncodeChar_of_ascii hStands, fun pieces tail => by
    simp [Piece.chars, hBackslash, utf8EncodeChar_of_ascii hAscii]⟩

theorem plain_bytes {c : Char} (h : c ≠ '"' ∧ c ≠ '\\' ∧ ¬c.toNat < 0x20) :
    (∀ b ∈ String.utf8EncodeChar c, Quoted.IsPlain b) ∧ ∀ pieces tail,
      encoded ((.plain c h :: pieces).flatMap Piece.chars) ++ tail =
        String.utf8EncodeChar c ++ (encoded (pieces.flatMap Piece.chars) ++ tail) :=
  ⟨fun _ hb => Quoted.isPlain_of_mem h.1 h.2.1 h.2.2 hb, fun pieces tail => by simp [Piece.chars]⟩

end Spelling

namespace Quoted

open Spelling

section Units

variable {a b c d : UInt8} {unit : Nat} (h : hexValue4 a b c d = some unit) (collected : List UInt8)
  (p : Position) (rest : List UInt8)
include h

theorem body_unicode (hTrailing : isTrailing unit = false) (hLeading : isLeading unit = false) :
    body collected p (0x5C :: 0x75 :: a :: b :: c :: d :: rest) =
      body ((encodedScalar unit).reverse ++ collected) (after (p.after 0x5C) [0x75, a, b, c, d]) rest := by
  rw [body.eq_def]
  simp [h, hTrailing, hLeading]

theorem body_trailing (hTrailing : isTrailing unit = true) :
    (body collected p (0x5C :: 0x75 :: a :: b :: c :: d :: rest)).result? = none := by
  rw [body.eq_def]
  simp [h, hTrailing]
  rfl

section Leading

variable (hTrailing : isTrailing unit = false) (hLeading : isLeading unit = true)
include hTrailing hLeading

theorem body_pair {w x y z : UInt8} {second : Nat} (hSecond : hexValue4 w x y z = some second)
    (hPaired : isTrailing second = true) :
    body collected p (0x5C :: 0x75 :: a :: b :: c :: d :: 0x5C :: 0x75 :: w :: x :: y :: z :: rest) =
      body ((encodedScalar (joined unit second)).reverse ++ collected)
        (after (after (p.after 0x5C) [0x75, a, b, c, d]) [0x5C, 0x75, w, x, y, z]) rest := by
  rw [body.eq_def]
  simp [h, hTrailing, hLeading, hSecond, hPaired]

theorem body_unpaired {w x y z : UInt8} {second : Nat} (hSecond : hexValue4 w x y z = some second)
    (hPaired : isTrailing second = false) :
    (body collected p (0x5C :: 0x75 :: a :: b :: c :: d :: 0x5C :: 0x75 :: w :: x :: y :: z :: rest)).result? =
      none := by
  rw [body.eq_def]
  simp [h, hTrailing, hLeading, hSecond, hPaired]
  rfl

/-- Only another code unit can stand behind the first half of a pair. -/
theorem body_alone (hAlone : ∀ back, rest ≠ 0x5C :: 0x75 :: back) :
    (body collected p (0x5C :: 0x75 :: a :: b :: c :: d :: rest)).result? = none := by
  rw [body.eq_def]
  simp only [h, hTrailing, hLeading]
  cases rest with
  | nil => rfl
  | cons first rest =>
      by_cases hFirst : first = 0x5C
      · subst hFirst
        cases rest with
        | nil => rfl
        | cons other rest =>
            have hOther : other ≠ 0x75 := by
              rintro rfl
              exact hAlone rest rfl
            simp [hOther]
            rfl
      · simp [hFirst]
        rfl

end Leading

end Units

/-- What stands behind a first half that is left alone: the end of the text, or a piece of another kind. -/
theorem not_unit {pieces : List Piece} (h : ∀ a b c d more, pieces ≠ .unicode a b c d :: more)
    (rest back : List UInt8) :
    encoded (pieces.flatMap Piece.chars) ++ 0x22 :: rest ≠ 0x5C :: 0x75 :: back := by
  intro hSame
  match pieces, h with
  | [], _ => cases hSame
  | .plain c hPlain :: more, _ =>
      obtain ⟨hBytes, hText⟩ := plain_bytes hPlain
      rw [hText] at hSame
      cases hChar : String.utf8EncodeChar c with
      | nil => exact absurd hChar (by simp)
      | cons b bytes =>
          rw [hChar] at hSame hBytes
          exact (hBytes b List.mem_cons_self).2.1 (List.cons.inj hSame).1
  | .escape sign stands hMem :: more, _ =>
      obtain ⟨e, decoded, hUnicode, _, _, hText⟩ := escape_bytes hMem
      rw [hText] at hSame
      exact hUnicode (List.cons.inj (List.cons.inj hSame).2).1
  | .unicode a b c d :: more, h => exact h a b c d more rfl

/-- Between quotes the meant characters are collected, if every surrogate has its other half. -/
theorem result?_body (pieces : List Piece) (collected : List UInt8) (p : Position) (rest : List UInt8) : ∃ q,
    (body collected p (encoded (pieces.flatMap Piece.chars) ++ 0x22 :: rest)).result? =
      (meaning pieces).map fun cs => (collected.reverse ++ encoded cs, ⟨rest, q⟩) := by
  induction pieces using meaning.induct generalizing collected p with
  | case1 => exact ⟨p.after 0x22, by simp [body, meaning]⟩
  | case2 c hPlain pieces ih =>
      obtain ⟨hBytes, hText⟩ := plain_bytes hPlain
      obtain ⟨q, hRest⟩ := ih ((String.utf8EncodeChar c).reverse ++ collected) (after p (String.utf8EncodeChar c))
      refine ⟨q, ?_⟩
      rw [hText, body_of_plain hBytes, hRest, meaning, Option.map_map]
      simp [Function.comp_def]
  | case3 sign stands hMem pieces ih =>
      obtain ⟨e, decoded, hUnicode, hSimple, hStands, hText⟩ := escape_bytes hMem
      obtain ⟨q, hRest⟩ := ih (decoded :: collected) (after p [0x5C, e])
      refine ⟨q, ?_⟩
      rw [hText, body_simpleEscape hSimple hUnicode, hRest, meaning, Option.map_map]
      simp [Function.comp_def, hStands]
  | case4 a b c d pieces first hTrailing =>
      obtain ⟨w, x, y, z, hUnit, hText⟩ := unicode_bytes a b c d
      refine ⟨p, ?_⟩
      rw [hText, body_trailing hUnit _ _ _ hTrailing, meaning_trailing hTrailing]
      rfl
  | case5 a b c d first hTrailing hLeading e f g h pieces second hPaired ih =>
      obtain ⟨w, x, y, z, hUnit, hText⟩ := unicode_bytes a b c d
      obtain ⟨w', x', y', z', hSecond, hMore⟩ := unicode_bytes e f g h
      obtain ⟨q, hRest⟩ := ih ((encodedScalar (joined first second)).reverse ++ collected)
        (after (after (p.after 0x5C) [0x75, w, x, y, z]) [0x5C, 0x75, w', x', y', z'])
      refine ⟨q, ?_⟩
      rw [hText, hMore, body_pair hUnit _ _ _ (Bool.eq_false_iff.mpr hTrailing) hLeading hSecond hPaired, hRest,
        meaning_pair hTrailing hLeading hPaired, Option.map_map]
      simp [Function.comp_def, encodedScalar, first, second]
  | case6 a b c d first hTrailing hLeading e f g h pieces second hPaired =>
      obtain ⟨w, x, y, z, hUnit, hText⟩ := unicode_bytes a b c d
      obtain ⟨w', x', y', z', hSecond, hMore⟩ := unicode_bytes e f g h
      refine ⟨p, ?_⟩
      rw [hText, hMore, body_unpaired hUnit _ _ _ (Bool.eq_false_iff.mpr hTrailing) hLeading hSecond
        (Bool.eq_false_iff.mpr hPaired), meaning_unpaired hTrailing hLeading hPaired]
      rfl
  | case7 a b c d pieces first hTrailing hLeading hAlone =>
      obtain ⟨w, x, y, z, hUnit, hText⟩ := unicode_bytes a b c d
      refine ⟨p, ?_⟩
      rw [hText, body_alone hUnit _ _ _ (Bool.eq_false_iff.mpr hTrailing) hLeading (not_unit hAlone rest),
        meaning_alone hTrailing hLeading hAlone]
      rfl
  | case8 a b c d pieces first hTrailing hLeading ih =>
      obtain ⟨w, x, y, z, hUnit, hText⟩ := unicode_bytes a b c d
      obtain ⟨q, hRest⟩ := ih ((encodedScalar first).reverse ++ collected)
        (after (p.after 0x5C) [0x75, w, x, y, z])
      refine ⟨q, ?_⟩
      rw [hText, body_unicode hUnit _ _ _ (Bool.eq_false_iff.mpr hTrailing) (Bool.eq_false_iff.mpr hLeading),
        hRest, meaning_unit hTrailing hLeading, Option.map_map]
      simp [Function.comp_def, encodedScalar, first]

theorem skipBody_of_plain {bs : List UInt8} (h : ∀ b ∈ bs, IsPlain b) (p : Position) (rest : List UInt8) :
    skipBody p (bs ++ rest) = skipBody (after p bs) rest := by
  induction bs generalizing p with
  | nil => rfl
  | cons b bs ih =>
      obtain ⟨hQuote, hBackslash, hControl⟩ := h b List.mem_cons_self
      rw [List.cons_append, skipBody, if_neg hQuote, if_neg hBackslash, if_neg hControl,
        ih fun b hb => h b (List.mem_cons_of_mem _ hb)]
      rfl

/-- Halves of pairs do not matter to who passes over a text. -/
theorem skipBody_spelled (pieces : List Piece) (p : Position) (rest : List UInt8) : ∃ q,
    skipBody p (encoded (pieces.flatMap Piece.chars) ++ 0x22 :: rest) = .done () ⟨rest, q⟩ := by
  induction pieces generalizing p with
  | nil => exact ⟨p.after 0x22, by simp [skipBody]⟩
  | cons piece pieces ih =>
      cases piece with
      | plain c hPlain =>
          obtain ⟨hBytes, hText⟩ := plain_bytes hPlain
          rw [hText, skipBody_of_plain hBytes]
          exact ih _
      | escape sign stands hMem =>
          obtain ⟨e, decoded, hUnicode, hSimple, _, hText⟩ := escape_bytes hMem
          rw [hText, skipBody_simpleEscape hSimple hUnicode]
          exact ih _
      | unicode a b c d =>
          obtain ⟨w, x, y, z, hUnit, hText⟩ := unicode_bytes a b c d
          rw [hText, skipBody_unicode hUnit]
          exact ih _

end Quoted

namespace Reader

open Spelling

theorem quotation_bytes (pieces : List Piece) (rest : List UInt8) : encoded (quotation pieces) ++ rest =
    0x22 :: (encoded (pieces.flatMap Piece.chars) ++ 0x22 :: rest) := by
  have hQuote : String.utf8EncodeChar '"' = [0x22] := rfl
  simp [quotation, hQuote]

/-- A text is read as what it means, whatever comes next. -/
theorem result?_quoted (pieces : List Piece) (rest : List UInt8) (p : Position) : ∃ q,
    (quoted ⟨encoded (quotation pieces) ++ rest, p⟩).result? =
      (meaning pieces).map fun cs => (String.ofList cs, ⟨rest, q⟩) := by
  obtain ⟨q, hBody⟩ := Quoted.result?_body pieces [] (p.after 0x22) rest
  refine ⟨q, ?_⟩
  rw [quotation_bytes]
  simp only [quoted, Cursor.advance]
  cases hMeaning : meaning pieces with
  | none =>
      rw [hMeaning, Option.map_none] at hBody
      cases hRead : Quoted.body [] (p.after 0x22) (encoded (pieces.flatMap Piece.chars) ++ 0x22 :: rest) with
      | failed failure next => rfl
      | done bytes next =>
          rw [hRead] at hBody
          cases hBody
  | some cs =>
      rw [hMeaning, Option.map_some, Reading.result?_eq_some, List.reverse_nil, List.nil_append,
        ← bytes_ofList cs] at hBody
      simp only [hBody, ofBytes?_bytes]
      rfl

theorem skipQuoted_spelled (pieces : List Piece) (rest : List UInt8) (p : Position) : ∃ q,
    skipQuoted ⟨encoded (quotation pieces) ++ rest, p⟩ = .done () ⟨rest, q⟩ := by
  rw [quotation_bytes]
  exact Quoted.skipBody_spelled pieces (p.after 0x22) rest

end Reader

end AuditDesk.Json
