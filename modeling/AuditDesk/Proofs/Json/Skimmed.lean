import AuditDesk.Proofs.Json.Readable

/-! Every spelled value is passed over, also one that cannot be read: neither the range of a number nor the
meaning of a text nor the depth counts here. -/
namespace AuditDesk.Json

open Text

namespace Reader

open Spelling

/-- The characters are passed over under any open containers, within the steps that their bytes allow. -/
def Skimmed (cs : List Char) : Prop := ∀ rest p, EndsValue rest → ∀ stack, ∃ steps q, 0 < steps ∧
  Passes .beforeValue stack ⟨encoded cs ++ rest, p⟩ .afterValue stack ⟨rest, q⟩ steps ∧
    steps + 1 ≤ 2 * (encoded cs).length

theorem Skimmed.behind {cs : List Char} (h : Skimmed cs) (gap : Blanks) {rest : List UInt8} (p : Position)
    (hEnds : EndsValue rest) (stack : List Frame) : ∃ steps q, 0 < steps ∧
    Passes .beforeValue stack ⟨encoded (gap.chars ++ cs) ++ rest, p⟩ .afterValue stack ⟨rest, q⟩ steps ∧
      steps + 1 ≤ 2 * (encoded cs).length := by
  obtain ⟨start, hBlanks⟩ := pastBlanks_gap gap.blank (encoded cs ++ rest) p
  obtain ⟨steps, q, hSteps, hPasses, hBytes⟩ := h rest start hEnds stack
  refine ⟨steps, q, hSteps, ?_, hBytes⟩
  rw [encoded_append, List.append_assoc]
  exact hPasses.of_same_blanks hBlanks hSteps

section Scalars

/-- A scalar is passed over in one step. -/
theorem skimmed_scalar (sign : Char) {more : List Char} (hOpens : opensValue sign = true) {r : Reader Unit}
    (hStep : ∀ fuel stack c, c.pastBlanks.peek? = some sign → skipFrom (fuel + 1) .beforeValue stack c =
      (r >>= fun _ => skipFrom fuel .afterValue stack) c.pastBlanks)
    (h : r.Yields (sign :: more) (some ())) : Skimmed (sign :: more) := by
  intro rest p hEnds stack
  obtain ⟨hSame, hPeek⟩ := pastBlanks_opening hOpens more rest p
  obtain ⟨q, hRead⟩ := h rest p hEnds
  refine ⟨1, q, Nat.one_pos, ?_, ?_⟩
  · refine passes_of_step (Reading.result?_eq_some.mp hRead) fun fuel => ?_
    rw [hStep fuel stack _ (by rw [hSame, hPeek]), hSame]
  · obtain ⟨b, hByte, _⟩ := opening_byte hOpens
    rw [encoded_cons, hByte, List.length_append, List.length_singleton]
    omega

theorem skimmed_null : Skimmed "null".toList := by
  refine skimmed_scalar 'n' (r := do skip; literal "ull".toList) rfl ?_ fun _ _ _ => ⟨_, rfl⟩
  intro fuel stack c hPeek
  exact bind_of_done _ (lookPastBlanks_of_peek hPeek)

theorem skimmed_true : Skimmed "true".toList := by
  refine skimmed_scalar 't' (r := do skip; literal "rue".toList) rfl ?_ fun _ _ _ => ⟨_, rfl⟩
  intro fuel stack c hPeek
  exact bind_of_done _ (lookPastBlanks_of_peek hPeek)

theorem skimmed_false : Skimmed "false".toList := by
  refine skimmed_scalar 'f' (r := do skip; literal "alse".toList) rfl ?_ fun _ _ _ => ⟨_, rfl⟩
  intro fuel stack c hPeek
  exact bind_of_done _ (lookPastBlanks_of_peek hPeek)

theorem skimmed_string (pieces : List Piece) : Skimmed (quotation pieces) := by
  refine skimmed_scalar '"' (r := skipQuoted) rfl ?_ fun rest p _ => ?_
  · intro fuel stack c hPeek
    exact bind_of_done _ (lookPastBlanks_of_peek hPeek)
  · obtain ⟨q, hDone⟩ := skipQuoted_spelled pieces rest p
    exact ⟨q, congrArg Reading.result? hDone⟩

theorem skimmed_number (n : NumberText) : Skimmed n.chars := by
  have hPassed := passes_unsigned n
  obtain ⟨c, cs, hDigits, hChars, _⟩ := unsigned_start n
  have hDigit := hDigits c List.mem_cons_self
  rw [NumberText.chars]
  split
  · refine skimmed_scalar '-' (r := do skip; skipUnsigned) rfl ?_ (yields_skip _ rfl hPassed)
    intro fuel stack c hPeek
    exact bind_of_done _ (lookPastBlanks_of_peek hPeek)
  · rw [hChars] at hPassed ⊢
    refine skimmed_scalar c (r := skipUnsigned) (by simp [opensValue, hDigit]) ?_ hPassed
    exact fun fuel stack start hPeek => skipFrom_digit hPeek hDigit fuel stack

end Scalars

section Containers

variable (inside : Blanks)

theorem skimmed_items {items : List Item} (hOpens : ∀ i ∈ items, ∃ sign more, i.body = sign :: more ∧
    opensValue sign = true) (h : ∀ i ∈ items, Skimmed i.body) (outer : List Frame) (gap : Blanks) (first : Bool)
    (rest : List UInt8) (p : Position) : ∃ steps q,
    Passes (stageOf first) (.array :: outer) ⟨encoded (gap.chars ++ itemsChars first items inside) ++ rest, p⟩
      .afterValue outer ⟨rest, q⟩ steps ∧ steps + 1 ≤ 2 * (encoded (itemsChars first items inside)).length := by
  induction items generalizing gap first p with
  | nil =>
      obtain ⟨q, hEnd⟩ := nextItem_nil gap first inside rest p
      obtain ⟨hPeek, hNext⟩ := nextItem_false hEnd
      refine ⟨1, q.after 0x5D, ?_, ?_⟩
      · have hClose : Passes (stageOf first) (.array :: outer) _ .afterValue outer _ 1 := passes_close hPeek
        rw [← hNext] at hClose
        exact hClose
      · have hBracket : (encoded [']']).length = 1 := rfl
        rw [itemsChars, encoded_append, encoded_append, List.length_append, List.length_append, hBracket]
        omega
  | cons i items ih =>
      obtain ⟨sign, more, hBody, hSign⟩ := hOpens i List.mem_cons_self
      obtain ⟨start, hNext⟩ := nextItem_cons gap first inside rest p items hBody hSign
      obtain ⟨before, hSame, hFirst⟩ := passes_item outer hNext
      obtain ⟨steps, behind, hSteps, hValue, hBytes⟩ := h i List.mem_cons_self
        (encoded (i.behind.chars ++ itemsChars false items inside) ++ rest) start
        (endsValue_items inside rest i.behind items) (.array :: outer)
      obtain ⟨more, q, hRest, hRestBytes⟩ := ih (fun j hj => hOpens j (List.mem_cons_of_mem _ hj))
        (fun j hj => h j (List.mem_cons_of_mem _ hj)) i.behind false behind
      refine ⟨more + (steps + 1), q, (hFirst.trans (hValue.of_same_blanks hSame hSteps)).trans hRest, ?_⟩
      rw [itemsChars_cons]
      simp only [encoded_append, List.length_append]
      omega

theorem skimmed_members {members : List Member} (h : ∀ m ∈ members, Skimmed m.item.body) (outer : List Frame)
    (gap : Blanks) (first : Bool) (rest : List UInt8) (p : Position) : ∃ steps q,
    Passes (stageOf first) (.object :: outer)
        ⟨encoded (gap.chars ++ membersChars first members inside) ++ rest, p⟩ .afterValue outer ⟨rest, q⟩ steps ∧
      steps + 1 ≤ 2 * (encoded (membersChars first members inside)).length := by
  induction members generalizing gap first p with
  | nil =>
      obtain ⟨q, hEnd⟩ := nextKey_nil gap first inside rest p
      obtain ⟨hPeek, hNext⟩ := nextKey_false hEnd
      refine ⟨1, q.after 0x7D, ?_, ?_⟩
      · have hClose : Passes (stageOf first) (.object :: outer) _ .afterValue outer _ 1 := passes_close hPeek
        rw [← hNext] at hClose
        exact hClose
      · have hBrace : (encoded ['\x7d']).length = 1 := rfl
        rw [membersChars, encoded_append, encoded_append, List.length_append, List.length_append, hBrace]
        omega
  | cons m members ih =>
      obtain ⟨start, hNext⟩ := nextKey_cons gap first inside rest p m members
      let tail := encoded (m.item.behind.chars ++ membersChars false members inside) ++ rest
      obtain ⟨named, hKey⟩ := skipQuoted_spelled m.key (encoded m.valued ++ tail) start
      obtain ⟨valued, hColon⟩ := colon_blanks m.named (encoded (m.item.before.chars ++ m.item.body) ++ tail) named
      rw [← valued_bytes] at hColon
      have hText : encoded (m.valued ++ (m.item.behind.chars ++ membersChars false members inside)) ++ rest =
          encoded m.valued ++ tail := by rw [encoded_append, List.append_assoc]
      rw [hText] at hNext
      obtain ⟨steps, behind, hSteps, hValue, hBytes⟩ := (h m List.mem_cons_self).behind m.item.before valued
        (endsValue_members inside rest m.item.behind members) (.object :: outer)
      obtain ⟨more, q, hRest, hRestBytes⟩ := ih (fun n hn => h n (List.mem_cons_of_mem _ hn)) m.item.behind
        false behind
      refine ⟨more + (steps + 1), q, ((passes_key outer hNext hKey hColon).trans hValue).trans hRest, ?_⟩
      rw [membersChars_cons]
      simp only [Member.valued, encoded_append, encoded_cons, List.length_append]
      omega

end Containers

theorem skimmed_spelled {admitted : Admission} {depth : Nat} {cs : List Char} (h : Spelled admitted depth cs) :
    Skimmed cs := by
  induction h with
  | null => exact skimmed_null
  | yes => exact skimmed_true
  | no => exact skimmed_false
  | @number _ n _ => exact skimmed_number n
  | @string _ pieces _ => exact skimmed_string pieces
  | @array _ items inside hItems ih =>
      intro rest p _ stack
      obtain ⟨hSame, hPeek⟩ := pastBlanks_opening (c := '[') rfl (itemsChars true items inside) rest p
      obtain ⟨steps, q, hPasses, hBytes⟩ := skimmed_items inside (fun i hi => (hItems i hi).opens) ih stack .none
        true rest (p.after 0x5B)
      have hOpen := passes_open stack (hSame.symm ▸ hPeek) (.inl ⟨rfl, rfl⟩)
      rw [hSame] at hOpen
      refine ⟨steps + 1, q, Nat.succ_pos _, hOpen.trans hPasses, ?_⟩
      rw [arrayChars, encoded_cons, List.length_append]
      have hBracket : (String.utf8EncodeChar '[').length = 1 := rfl
      omega
  | @object _ members inside _ hMembers ih =>
      intro rest p _ stack
      obtain ⟨hSame, hPeek⟩ := pastBlanks_opening (c := '\x7b') rfl (membersChars true members inside) rest p
      obtain ⟨steps, q, hPasses, hBytes⟩ := skimmed_members inside ih stack .none true rest (p.after 0x7B)
      have hOpen := passes_open stack (hSame.symm ▸ hPeek) (.inr ⟨rfl, rfl⟩)
      rw [hSame] at hOpen
      refine ⟨steps + 1, q, Nat.succ_pos _, hOpen.trans hPasses, ?_⟩
      rw [objectChars, encoded_cons, List.length_append]
      have hBrace : (String.utf8EncodeChar '\x7b').length = 1 := rfl
      omega

/-- A value that nobody asks for only has to be a value. -/
theorem skipValue_spelled {cs : List Char} (h : WellFormed cs) : skipValue.Takes cs (some ()) := by
  obtain ⟨depth, h⟩ := h
  intro gap rest p hEnds
  obtain ⟨steps, q, _, hPasses, hBytes⟩ := (skimmed_spelled h).behind gap p hEnds []
  have hLength : (encoded cs).length ≤ (encoded (gap.chars ++ cs) ++ rest).length := by
    simp only [encoded_append, List.length_append]
    omega
  obtain ⟨fuel, hFuel⟩ : ∃ fuel, 2 * (encoded (gap.chars ++ cs) ++ rest).length + 2 = fuel + 1 + steps :=
    ⟨2 * (encoded (gap.chars ++ cs) ++ rest).length + 1 - steps, by omega⟩
  refine ⟨q, ?_⟩
  rw [skipValue, hFuel, hPasses]
  rfl

end Reader

end AuditDesk.Json
