import AuditDesk.Proofs.Text.Encoded
import AuditDesk.Text.Percent

/-! Texts in which bytes are written with percent signs. Writing a text so that it can stand in an address does
not change what it is read as; it is read as itself just if no percent sign in it is taken for an escape. -/
namespace AuditDesk.Text.Percent

/-- Two hexadecimal digits stand in front, which complete a percent sign before them. -/
def Completes (cs : List Char) : Prop :=
  ∃ a b rest, cs = a :: b :: rest ∧ (hexValue? a).isSome = true ∧ (hexValue? b).isSome = true

/-- Somewhere in the text a percent sign and two hexadecimal digits stand for a byte. -/
def HasEscape (cs : List Char) : Prop := ∃ front rest, cs = front ++ '%' :: rest ∧ Completes rest

theorem hasEscape_cons {c : Char} {cs : List Char} :
    HasEscape (c :: cs) ↔ (c = '%' ∧ Completes cs) ∨ HasEscape cs := by
  constructor
  · rintro ⟨front, rest, hText, hRest⟩
    cases front with
    | nil =>
        obtain ⟨rfl, rfl⟩ := List.cons.inj hText
        exact .inl ⟨rfl, hRest⟩
    | cons first front =>
        obtain ⟨rfl, rfl⟩ := List.cons.inj hText
        exact .inr ⟨front, rest, rfl, hRest⟩
  · rintro (⟨rfl, hRest⟩ | ⟨front, rest, rfl, hRest⟩)
    · exact ⟨[], cs, rfl, hRest⟩
    · exact ⟨c :: front, rest, rfl, hRest⟩

theorem not_hasEscape_nil : ¬ HasEscape [] := by
  rintro ⟨front, rest, hText, -⟩
  simp at hText

section Decoding

theorem bytes_toString (c : Char) : Text.bytes c.toString = String.utf8EncodeChar c := by
  rw [← encoded_toList, Char.toString_eq_singleton, String.toList_singleton, encoded_cons, encoded_nil, List.append_nil]

theorem decode_of_completes {a b : Char} {high low : Nat} (hHigh : hexValue? a = some high)
    (hLow : hexValue? b = some low) (rest : List Char) :
    decode ('%' :: a :: b :: rest) = (high * 16 + low).toUInt8 :: decode rest := by
  simp only [decode, hHigh, hLow]

/-- Any other character stands for its own bytes. -/
theorem decode_cons {c : Char} {cs : List Char} (h : ¬ (c = '%' ∧ Completes cs)) :
    decode (c :: cs) = String.utf8EncodeChar c ++ decode cs := by
  rcases cs with _ | ⟨a, _ | ⟨b, rest⟩⟩
  · rw [decode, bytes_toString]
    simp
  · rw [decode, bytes_toString]
    simp
  · by_cases hPercent : c = '%'
    · subst hPercent
      have hOpen : ¬ Completes (a :: b :: rest) := fun hCompletes => h ⟨rfl, hCompletes⟩
      have hSign : String.utf8EncodeChar '%' = [37] := by decide
      rw [hSign]
      cases hHigh : hexValue? a with
      | none => simp only [decode, hHigh, List.singleton_append]
      | some high =>
          cases hLow : hexValue? b with
          | none => simp only [decode, hHigh, hLow, List.singleton_append]
          | some low => exact absurd ⟨a, b, rest, rfl, by rw [hHigh]; rfl, by rw [hLow]; rfl⟩ hOpen
    · rw [decode, bytes_toString]
      rintro x y z rfl
      exact absurd rfl hPercent

theorem length_utf8EncodeChar_pos (c : Char) : 0 < (String.utf8EncodeChar c).length := by
  rw [String.length_utf8EncodeChar]
  exact c.utf8Size_pos

/-- A text is read escape by escape, and character by character where there is none. -/
@[elab_as_elim]
theorem escape_induction {motive : List Char → Prop} (nil : motive [])
    (escape : ∀ a b rest high low, hexValue? a = some high → hexValue? b = some low → motive rest →
      motive ('%' :: a :: b :: rest))
    (other : ∀ c cs, ¬ (c = '%' ∧ Completes cs) → motive cs → motive (c :: cs)) (cs : List Char) : motive cs := by
  -- An escape is three characters long, so the induction is on the length.
  induction hLength : cs.length using Nat.strongRecOn generalizing cs with
  | ind length ih =>
      subst hLength
      cases cs with
      | nil => exact nil
      | cons c cs =>
          by_cases hHead : c = '%' ∧ Completes cs
          · obtain ⟨rfl, a, b, rest, rfl, hHigh, hLow⟩ := hHead
            obtain ⟨high, hHigh⟩ := Option.isSome_iff_exists.mp hHigh
            obtain ⟨low, hLow⟩ := Option.isSome_iff_exists.mp hLow
            exact escape a b rest high low hHigh hLow (ih rest.length (by simp; omega) rest rfl)
          · exact other c cs hHead (ih cs.length (Nat.lt_succ_self _) cs rfl)

/-- A text is at least as long as what it is read as, and longer if it has an escape. -/
theorem length_decode (cs : List Char) :
    (decode cs).length ≤ (encoded cs).length ∧ (HasEscape cs → (decode cs).length < (encoded cs).length) := by
  induction cs using escape_induction with
  | nil => exact ⟨Nat.le_refl _, fun h => absurd h not_hasEscape_nil⟩
  | escape a b rest high low hHigh hLow ih =>
      have hPercent := length_utf8EncodeChar_pos '%'
      have hFirst := length_utf8EncodeChar_pos a
      have hRest := ih.1
      rw [decode_of_completes hHigh hLow]
      simp only [encoded_cons, List.length_append, List.length_cons]
      omega
  | other c cs hHead ih =>
      obtain ⟨hLe, hLt⟩ := ih
      rw [decode_cons hHead, encoded_cons, List.length_append, List.length_append]
      refine ⟨Nat.add_le_add_left hLe _, fun hEscape => Nat.add_lt_add_left (hLt ?_) _⟩
      exact (hasEscape_cons.mp hEscape).resolve_left hHead

/-- A text is read as itself unless it has an escape. -/
theorem decode_eq_encoded_iff (cs : List Char) : decode cs = encoded cs ↔ ¬ HasEscape cs := by
  constructor
  · intro hSame hEscape
    have hLess := (length_decode cs).2 hEscape
    rw [hSame] at hLess
    exact Nat.lt_irrefl _ hLess
  · intro hNone
    induction cs with
    | nil => rfl
    | cons c cs ih =>
        rw [hasEscape_cons, not_or] at hNone
        rw [decode_cons hNone.1, ih hNone.2, encoded_cons]

end Decoding

section Encoding

theorem hexValue?_hexUpper {n : Nat} (h : n < 16) : hexValue? (hexUpper n) = some n := by
  have hAll : ∀ n : Fin 16, hexValue? (hexUpper n) = some n.val := by decide
  exact hAll ⟨n, h⟩

theorem decode_encodeByte (b : UInt8) (rest : List Char) : decode (encodeByte b ++ rest) = b :: decode rest := by
  have hHigh : hexValue? (hexUpper (b.toNat / 16)) = some (b.toNat / 16) :=
    hexValue?_hexUpper (by have := b.toNat_lt; omega)
  have hLow : hexValue? (hexUpper (b.toNat % 16)) = some (b.toNat % 16) :=
    hexValue?_hexUpper (Nat.mod_lt _ (by decide))
  have hByte : (b.toNat / 16 * 16 + b.toNat % 16).toUInt8 = b := by
    rw [Nat.mul_comm, Nat.div_add_mod, Nat.toUInt8_eq, UInt8.ofNat_toNat]
  rw [encodeByte, List.cons_append, List.cons_append, List.cons_append, List.nil_append,
    decode_of_completes hHigh hLow, hByte]

theorem decode_encodeBytes (bs : List UInt8) (rest : List Char) :
    decode (bs.flatMap encodeByte ++ rest) = bs ++ decode rest := by
  induction bs with
  | nil => rfl
  | cons b bs ih => rw [List.flatMap_cons, List.append_assoc, decode_encodeByte, ih, List.cons_append]

/-- What a character is written as. -/
def written (reserved : List Char) (c : Char) : List Char :=
  if c.toNat < 0x20 || 0x7E < c.toNat || reserved.contains c then (String.utf8EncodeChar c).flatMap encodeByte
  else [c]

theorem toList_encode (reserved cs : List Char) : (encode reserved cs).toList = cs.flatMap (written reserved) := by
  rw [encode, String.toList_ofList]
  simp only [bytes_toString]
  rfl

/-- Neither the percent sign nor a hexadecimal digit is written with a percent sign. -/
def KeepsEscapes (reserved : List Char) : Prop := '%' ∉ reserved ∧ ∀ c ∈ reserved, hexValue? c = none

variable {reserved : List Char}

theorem written_cases (reserved : List Char) (c : Char) :
    written reserved c = [c] ∨ ∃ rest, written reserved c = '%' :: rest := by
  rw [written]
  split
  · refine .inr ?_
    obtain ⟨b, bs, hBytes⟩ := List.exists_cons_of_length_pos (length_utf8EncodeChar_pos c)
    rw [hBytes]
    exact ⟨_, rfl⟩
  · exact .inl rfl

theorem written_of_not_mem {c : Char} (hShown : 0x20 ≤ c.toNat ∧ c.toNat ≤ 0x7E) (hFree : c ∉ reserved) :
    written reserved c = [c] := by
  rw [written, if_neg]
  simp only [Bool.or_eq_true, decide_eq_true_eq, List.contains_iff_mem, not_or, Nat.not_lt]
  exact ⟨hShown, hFree⟩

theorem written_percent (h : KeepsEscapes reserved) : written reserved '%' = ['%'] :=
  written_of_not_mem (by decide) h.1

theorem shown_of_hexValue? {c : Char} (h : (hexValue? c).isSome = true) : 0x20 ≤ c.toNat ∧ c.toNat ≤ 0x7E := by
  change 0x20 ≤ c.val.toNat ∧ c.val.toNat ≤ 0x7E
  unfold hexValue? at h
  split at h
  · rename_i hDigit
    have hRange : 48 ≤ c.val.toNat ∧ c.val.toNat ≤ 57 := Char.isDigit_iff_toNat.mp hDigit
    omega
  split at h
  · rename_i hLower
    simp only [Bool.and_eq_true, decide_eq_true_eq, Char.le_def, UInt32.le_iff_toNat_le] at hLower
    change 97 ≤ c.val.toNat ∧ c.val.toNat ≤ 102 at hLower
    omega
  split at h
  · rename_i hUpper
    simp only [Bool.and_eq_true, decide_eq_true_eq, Char.le_def, UInt32.le_iff_toNat_le] at hUpper
    change 65 ≤ c.val.toNat ∧ c.val.toNat ≤ 70 at hUpper
    omega
  · cases h

theorem written_of_hexValue? (h : KeepsEscapes reserved) {c : Char} (hHex : (hexValue? c).isSome = true) :
    written reserved c = [c] := by
  refine written_of_not_mem (shown_of_hexValue? hHex) fun hMem => ?_
  rw [h.2 c hMem] at hHex
  cases hHex

/-- A hexadecimal digit in front of what is written stood there before. -/
theorem written_eq_cons {cs rest : List Char} {digit : Char} (hHex : (hexValue? digit).isSome = true)
    (h : cs.flatMap (written reserved) = digit :: rest) :
    ∃ behind, cs = digit :: behind ∧ behind.flatMap (written reserved) = rest := by
  cases cs with
  | nil => cases h
  | cons c cs =>
      rw [List.flatMap_cons] at h
      rcases written_cases reserved c with hSame | ⟨more, hEscaped⟩
      · rw [hSame] at h
        obtain ⟨rfl, rfl⟩ := List.cons.inj h
        exact ⟨cs, rfl, rfl⟩
      · rw [hEscaped] at h
        obtain ⟨rfl, -⟩ := List.cons.inj h
        cases hHex

theorem completes_written (h : KeepsEscapes reserved) (cs : List Char) :
    Completes (cs.flatMap (written reserved)) ↔ Completes cs := by
  constructor
  · rintro ⟨a, b, rest, hText, hHigh, hLow⟩
    obtain ⟨behind, rfl, hBehind⟩ := written_eq_cons hHigh hText
    obtain ⟨last, rfl, -⟩ := written_eq_cons hLow hBehind
    exact ⟨a, b, last, rfl, hHigh, hLow⟩
  · rintro ⟨a, b, rest, rfl, hHigh, hLow⟩
    refine ⟨a, b, rest.flatMap (written reserved), ?_, hHigh, hLow⟩
    rw [List.flatMap_cons, List.flatMap_cons, written_of_hexValue? h hHigh, written_of_hexValue? h hLow]
    rfl

/-- What is written stands for the same bytes as the text itself. -/
theorem decode_written (h : KeepsEscapes reserved) (cs : List Char) :
    decode (cs.flatMap (written reserved)) = decode cs := by
  induction cs using escape_induction with
  | nil => rfl
  | escape a b rest high low hHigh hLow ih =>
      rw [List.flatMap_cons, List.flatMap_cons, List.flatMap_cons, written_percent h,
        written_of_hexValue? h (by rw [hHigh]; rfl), written_of_hexValue? h (by rw [hLow]; rfl),
        decode_of_completes hHigh hLow, ← ih]
      exact decode_of_completes hHigh hLow _
  | other c cs hHead ih =>
      rw [decode_cons hHead, List.flatMap_cons, ← ih, written]
      split
      · exact decode_encodeBytes _ _
      · rw [List.singleton_append]
        exact decode_cons (by rwa [completes_written h])

theorem decode_encode (h : KeepsEscapes reserved) (cs : List Char) :
    decode (encode reserved cs).toList = decode cs := by
  rw [toList_encode, decode_written h]

/-- What is written holds percent signs, hexadecimal digits, and characters of the text that are not
reserved. -/
theorem mem_encode {reserved cs : List Char} {c : Char} (h : c ∈ (encode reserved cs).toList) :
    c = '%' ∨ (hexValue? c).isSome = true ∨ c ∈ cs ∧ c ∉ reserved := by
  rw [toList_encode] at h
  obtain ⟨own, hOwn, hWritten⟩ := List.mem_flatMap.mp h
  rw [written] at hWritten
  split at hWritten
  · obtain ⟨b, -, hByte⟩ := List.mem_flatMap.mp hWritten
    have hDigits (n : Nat) (hDigit : n < 16) : (hexValue? (hexUpper n)).isSome = true := by
      rw [hexValue?_hexUpper hDigit]
      rfl
    rw [encodeByte, List.mem_cons, List.mem_cons, List.mem_singleton] at hByte
    rcases hByte with rfl | rfl | rfl
    · exact .inl rfl
    · exact .inr (.inl (hDigits _ (by have := b.toNat_lt; omega)))
    · exact .inr (.inl (hDigits _ (Nat.mod_lt _ (by decide))))
  · rename_i hFree
    rw [List.mem_singleton] at hWritten
    subst hWritten
    refine .inr (.inr ⟨hOwn, fun hReserved => hFree ?_⟩)
    rw [List.contains_iff_mem.mpr hReserved, Bool.or_true]

end Encoding

end AuditDesk.Text.Percent
