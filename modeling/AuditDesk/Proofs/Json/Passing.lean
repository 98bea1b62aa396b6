import AuditDesk.Proofs.Json.Endings

/-! A value that nobody asks for is passed over up to the very place where reading it would have ended. -/
namespace AuditDesk.Json

namespace Reader

section Passing

/-- From one stage of passing over values to a later one, with the steps that it takes. A step takes a
byte, or it comes before one. -/
def Passes (stage : SkipStage) (stack : List Frame) (c : Cursor) (later : SkipStage) (rest : List Frame)
    (next : Cursor) (steps : Nat) : Prop :=
  ∀ fuel, skipFrom (fuel + steps) stage stack c = skipFrom fuel later rest next

theorem skipFrom_pastBlanks (fuel : Nat) (stack : List Frame) (c : Cursor) :
    skipFrom (fuel + 1) .beforeValue stack c.pastBlanks = skipFrom (fuel + 1) .beforeValue stack c :=
  lookPastBlanks_pastBlanks _ c

theorem literal_done {more : List Char} {v w : Value} {c next : Cursor}
    (h : (do skip; literal more; yield v : Reader Value) c = .done w next) :
    literal more c.advance = .done () next := by
  obtain ⟨_, _, hSkip, h⟩ := done_of_bind h
  cases hSkip
  obtain ⟨_, _, hLiteral, h⟩ := done_of_bind h
  cases h
  exact hLiteral

theorem passes_of_step {stack : List Frame} {c start next : Cursor} {r : Reader Unit}
    (hTaken : r start = .done () next)
    (hStep : ∀ fuel, skipFrom (fuel + 1) .beforeValue stack c =
      (r >>= fun _ => skipFrom fuel .afterValue stack) start) :
    Passes .beforeValue stack c .afterValue stack next 1 := by
  intro fuel
  rw [hStep, bind_of_done _ hTaken]

theorem skipFrom_digit {c : Cursor} {first : Char} (hPeek : c.pastBlanks.peek? = some first)
    (hDigit : first.isDigit = true) (fuel : Nat) (stack : List Frame) :
    skipFrom (fuel + 1) .beforeValue stack c =
      (skipUnsigned >>= fun _ => skipFrom fuel .afterValue stack) c.pastBlanks := by
  have hOther : ∀ sign ∈ ['n', 't', 'f', '-', '"', '[', '\x7b'], first ≠ sign := by
    rintro _ hMem rfl
    simp only [List.mem_cons, List.not_mem_nil, or_false] at hMem
    rcases hMem with rfl | rfl | rfl | rfl | rfl | rfl | rfl <;> cases hDigit
  simp only [List.forall_mem_cons] at hOther
  obtain ⟨hNull, hTrue, hFalse, hMinus, hQuote, hBracket, hBrace, _⟩ := hOther
  refine (bind_of_done _ (lookPastBlanks_of_peek hPeek)).trans ?_
  simp only
  rw [if_pos hDigit]

theorem passes_scalar {c next : Cursor} {first : Char} {r : Reader Value} {v : Value}
    (hPeek : c.pastBlanks.peek? = some first) (hScalar : scalar? first = some r)
    (hDone : r c.pastBlanks = .done v next) (stack : List Frame) :
    Passes .beforeValue stack c .afterValue stack next 1 ∧ next.rest.length < c.rest.length := by
  have hBlanks := length_pastBlanks c
  have hAhead : c.pastBlanks.advance.rest.length < c.rest.length :=
    Nat.lt_of_lt_of_le (length_advance_lt hPeek) hBlanks
  have hLook := lookPastBlanks_of_peek hPeek
  have hShorter : ∀ {more : List Char}, literal more c.pastBlanks.advance = .done () next →
      next.rest.length < c.rest.length :=
    fun hName => Nat.lt_of_le_of_lt (shortens_literal _ _ _ _ hName) hAhead
  unfold scalar? at hScalar
  split at hScalar
  · cases hScalar
    have hName := literal_done hDone
    exact ⟨passes_of_step hName fun fuel => bind_of_done _ hLook, hShorter hName⟩
  · cases hScalar
    have hName := literal_done hDone
    exact ⟨passes_of_step hName fun fuel => bind_of_done _ hLook, hShorter hName⟩
  · cases hScalar
    have hName := literal_done hDone
    exact ⟨passes_of_step hName fun fuel => bind_of_done _ hLook, hShorter hName⟩
  · cases hScalar
    obtain ⟨_, _, hSkip, hDone⟩ := done_of_bind hDone
    cases hSkip
    obtain ⟨n, _, hNumber, hDone⟩ := done_of_bind hDone
    cases hDone
    have hPassed := skipUnsigned_of_unsignedNumber hNumber
    exact ⟨passes_of_step hPassed fun fuel => bind_of_done _ hLook,
      Nat.lt_trans (length_skipUnsigned hPassed) hAhead⟩
  · cases hScalar
    obtain ⟨s, _, hString, hDone⟩ := done_of_bind hDone
    cases hDone
    have hPassed := skipQuoted_of_quoted hString
    exact ⟨passes_of_step hPassed fun fuel => bind_of_done _ hLook,
      Nat.lt_of_lt_of_le (length_skipQuoted hPassed) hBlanks⟩
  · split at hScalar
    · rename_i hDigit
      cases hScalar
      obtain ⟨n, _, hNumber, hDone⟩ := done_of_bind hDone
      cases hDone
      have hPassed := skipUnsigned_of_unsignedNumber hNumber
      exact ⟨passes_of_step hPassed fun fuel => skipFrom_digit hPeek hDigit fuel stack,
        Nat.lt_of_lt_of_le (length_skipUnsigned hPassed) hBlanks⟩
    · cases hScalar

section Steps

variable {stack outer : List Frame} {c start next last : Cursor}

theorem Passes.trans {stage middle later : SkipStage} {stack between rest : List Frame} {m n : Nat}
    (hFirst : Passes stage stack c middle between start m)
    (hSecond : Passes middle between start later rest next n) :
    Passes stage stack c later rest next (n + m) := by
  intro fuel
  rw [← Nat.add_assoc, hFirst, hSecond]

theorem passes_open (stack : List Frame) {sign : Char} {frame : Frame} (hPeek : c.pastBlanks.peek? = some sign)
    (hSign : sign = '[' ∧ frame = .array ∨ sign = '\x7b' ∧ frame = .object) :
    Passes .beforeValue stack c .afterOpening (frame :: stack) c.pastBlanks.advance 1 := by
  intro fuel
  rcases hSign with ⟨rfl, rfl⟩ | ⟨rfl, rfl⟩
  · exact (bind_of_done _ (lookPastBlanks_of_peek hPeek))
  · exact (bind_of_done _ (lookPastBlanks_of_peek hPeek))

/-- The stage in which the first or another item is awaited. -/
def stageOf (first : Bool) : SkipStage := if first then .afterOpening else .afterValue

theorem passes_close {first : Bool} {frame : Frame} (hPeek : c.pastBlanks.peek? = some frame.close) :
    Passes (stageOf first) (frame :: outer) c .afterValue outer c.pastBlanks.advance 1 := by
  intro fuel
  cases first with
  | true =>
      refine (bind_of_done _ (lookPastBlanks_of_peek hPeek)).trans ?_
      rw [if_pos rfl]
      rfl
  | false =>
      refine (bind_of_done _ (lookPastBlanks_of_peek hPeek)).trans ?_
      rw [if_pos rfl]
      rfl

/-- White space in front of a value costs nothing. -/
theorem Passes.of_same_blanks {later : SkipStage} {rest : List Frame} {n : Nat}
    (hSame : c.pastBlanks = start.pastBlanks) (hSteps : 0 < n)
    (h : Passes .beforeValue stack start later rest next n) :
    Passes .beforeValue stack c later rest next n := by
  intro fuel
  obtain ⟨n, rfl⟩ : ∃ m, n = m + 1 := ⟨n - 1, by omega⟩
  rw [← h fuel, ← Nat.add_assoc, ← skipFrom_pastBlanks (fuel + n) stack c, hSame, skipFrom_pastBlanks]

theorem passes_item (outer : List Frame) {first : Bool} (h : nextItem first c = .done true start) :
    ∃ before : Cursor, before.pastBlanks = start.pastBlanks ∧
      Passes (stageOf first) (.array :: outer) c .beforeValue (.array :: outer) before 1 := by
  obtain ⟨sign, hPeek, hOpen, hStart⟩ := nextItem_true h
  have hLook := lookPastBlanks_of_peek hPeek
  have hSign : some sign ≠ some Frame.array.close := by
    rintro ⟨⟩
    exact hOpen rfl
  cases first with
  | true =>
      obtain rfl := hStart
      refine ⟨c.pastBlanks, rfl, fun fuel => (bind_of_done _ hLook).trans ?_⟩
      rw [if_neg hSign]
      by_cases hComma : sign = ','
      · subst hComma
        rfl
      · simp only [stageOf, ↓reduceIte]
        rfl
  | false =>
      obtain ⟨rfl, rfl⟩ := hStart
      refine ⟨c.pastBlanks.advance, (Cursor.pastBlanks_idem _).symm, fun fuel =>
        (bind_of_done _ hLook).trans ?_⟩
      rw [if_neg hSign]
      rfl

theorem skipKey_done {named valued : Cursor} (hQuote : c.pastBlanks.peek? = some '"')
    (hKey : skipQuoted c.pastBlanks = .done () named) (hColon : colon named = .done () valued) :
    skipKey c = .done () valued := by
  refine (bind_of_done _ (lookPastBlanks_of_peek hQuote)).trans ?_
  exact (bind_of_done (fun _ => colon) hKey).trans hColon

theorem passes_key (outer : List Frame) {first : Bool} {named valued : Cursor}
    (hNext : nextKey first c = .done true start) (hKey : skipQuoted start = .done () named)
    (hColon : colon named = .done () valued) :
    Passes (stageOf first) (.object :: outer) c .beforeValue (.object :: outer) valued 1 := by
  obtain ⟨hQuote, hStart⟩ := nextKey_true hNext
  intro fuel
  cases first with
  | true =>
      obtain rfl := hStart
      refine (bind_of_done _ (lookPastBlanks_of_peek hQuote)).trans ?_
      rw [if_neg (by decide)]
      have hSkip : skipKey c.pastBlanks = .done () valued :=
        skipKey_done (by rwa [Cursor.pastBlanks_idem]) (by rwa [Cursor.pastBlanks_idem]) hColon
      exact bind_of_done (fun _ => skipFrom fuel .beforeValue (.object :: outer)) hSkip
  | false =>
      obtain ⟨hComma, rfl⟩ := hStart
      refine (bind_of_done _ (lookPastBlanks_of_peek hComma)).trans ?_
      rw [if_neg (by decide)]
      have hSkip : skipKey c.pastBlanks.advance = .done () valued := skipKey_done hQuote hKey hColon
      exact bind_of_done (fun _ => skipFrom fuel .beforeValue (.object :: outer)) hSkip

end Steps

/-- A reader of values after which skipping ends at the same place, within the steps that the bytes
allow. -/
def PassedOver (item : Reader Value) : Prop :=
  ∀ (c next : Cursor) (v : Value), item c = .done v next → ∀ stack : List Frame,
    ∃ steps, 0 < steps ∧ Passes .beforeValue stack c .afterValue stack next steps ∧
      steps + 1 + 2 * next.rest.length ≤ 2 * c.rest.length

theorem closeArray_done {c last : Cursor} (hPeek : c.peek? = some ']') (hBlanks : c.pastBlanks = c)
    (h : closeArray c = .done () last) : last = c.advance := by
  replace h := done_of_lookPastBlanks h
  rw [hBlanks, hPeek] at h
  cases h
  rfl

theorem closeObject_done {c last : Cursor} (hPeek : c.peek? = some '\x7d') (hBlanks : c.pastBlanks = c)
    (h : closeObject c = .done () last) : last = c.advance := by
  replace h := done_of_lookPastBlanks h
  rw [hBlanks, hPeek] at h
  cases h
  rfl

theorem passes_items {item : Reader Value} (hItem : PassedOver item) {first : Bool} {c next last : Cursor}
    {items : List Value} (h : Listed item first c items next) (hClose : closeArray next = .done () last)
    (outer : List Frame) : ∃ steps, 0 < steps ∧
      Passes (stageOf first) (.array :: outer) c .afterValue outer last steps ∧
      steps + 1 + 2 * last.rest.length ≤ 2 * c.rest.length := by
  induction h with
  | @nil first c next hEnd =>
      obtain ⟨hPeek, rfl⟩ := nextItem_false hEnd
      obtain rfl := closeArray_done hPeek (Cursor.pastBlanks_idem c) hClose
      have hShorter := length_advance_lt hPeek
      have hBlanks := length_pastBlanks c
      exact ⟨1, Nat.one_pos, passes_close hPeek, by omega⟩
  | @cons first c start behind next a as hNext hRead more ih =>
      obtain ⟨rest, _, hRest, hRestBytes⟩ := ih hClose
      obtain ⟨before, hSame, hNextItem⟩ := passes_item outer hNext
      have hStart := shortens_nextItem _ _ _ _ hNext
      obtain ⟨steps, hSteps, hValue, hBytes⟩ := hItem start behind a hRead (.array :: outer)
      refine ⟨rest + (steps + 1), by omega, ?_, by omega⟩
      exact (hNextItem.trans (hValue.of_same_blanks hSame hSteps)).trans hRest

theorem passes_members {item : Reader Value} (hItem : PassedOver item) {first : Bool}
    {c next last : Cursor} {members : List (String × Value)} (h : Keyed item first c members next)
    (hClose : closeObject next = .done () last) (outer : List Frame) : ∃ steps, 0 < steps ∧
      Passes (stageOf first) (.object :: outer) c .afterValue outer last steps ∧
      steps + 1 + 2 * last.rest.length ≤ 2 * c.rest.length := by
  induction h with
  | @nil first c next hEnd =>
      obtain ⟨hPeek, rfl⟩ := nextKey_false hEnd
      obtain rfl := closeObject_done hPeek (Cursor.pastBlanks_idem c) hClose
      have hShorter := length_advance_lt hPeek
      have hBlanks := length_pastBlanks c
      exact ⟨1, Nat.one_pos, passes_close hPeek, by omega⟩
  | @cons first c start named valued behind next key v members hNext hKey hColon hRead more ih =>
      obtain ⟨rest, _, hRest, hRestBytes⟩ := ih hClose
      have hNextKey := passes_key outer hNext (skipQuoted_of_quoted hKey) hColon
      obtain ⟨steps, hSteps, hValue, hBytes⟩ := hItem valued behind v hRead (.object :: outer)
      have hStart := shortens_nextKey _ _ _ _ hNext
      have hNamed := length_skipQuoted (skipQuoted_of_quoted hKey)
      have hValued := shortens_colon _ _ _ hColon
      exact ⟨rest + (steps + 1), by omega, (hNextKey.trans hValue).trans hRest, by omega⟩

/-- Every value that can be read is passed over to the same place, however deep the stack is. -/
theorem passedOver_value (depth : Nat) : PassedOver (value depth) := by
  induction depth with
  | zero =>
      intro c next v h stack
      cases form_of_value h with
      | scalar hPeek hScalar hDone =>
          obtain ⟨hPasses, hShorter⟩ := passes_scalar hPeek hScalar hDone stack
          exact ⟨1, Nat.one_pos, hPasses, by omega⟩
      | array hDepth => cases hDepth
      | object hDepth => cases hDepth
  | succ depth ih =>
      intro c next v h stack
      have hBlanks := length_pastBlanks c
      cases form_of_value h with
      | scalar hPeek hScalar hDone =>
          obtain ⟨hPasses, hShorter⟩ := passes_scalar hPeek hScalar hDone stack
          exact ⟨1, Nat.one_pos, hPasses, by omega⟩
      | array hDepth hPeek hItems _ hClose =>
          cases hDepth
          have hShorter := length_advance_lt hPeek
          obtain ⟨steps, _, hPasses, hBytes⟩ := passes_items ih hItems hClose stack
          have hOpen := passes_open stack hPeek (.inl ⟨rfl, rfl⟩)
          exact ⟨steps + 1, Nat.succ_pos _, hOpen.trans hPasses, by omega⟩
      | object hDepth hPeek hMembers _ hClose =>
          cases hDepth
          have hShorter := length_advance_lt hPeek
          obtain ⟨steps, _, hPasses, hBytes⟩ := passes_members ih hMembers hClose stack
          have hOpen := passes_open stack hPeek (.inr ⟨rfl, rfl⟩)
          exact ⟨steps + 1, Nat.succ_pos _, hOpen.trans hPasses, by omega⟩

/-- Skipping a value ends where reading it does. -/
theorem skipValue_of_value {depth : Nat} {c next : Cursor} {v : Value}
    (h : value depth c = .done v next) : skipValue c = .done () next := by
  obtain ⟨steps, _, hPasses, hBytes⟩ := passedOver_value depth c next v h []
  obtain ⟨fuel, hFuel⟩ : ∃ fuel, 2 * c.rest.length + 2 = fuel + 1 + steps :=
    ⟨2 * c.rest.length + 1 - steps, by omega⟩
  rw [skipValue, hFuel, hPasses]
  rfl

theorem length_value {depth : Nat} {c next : Cursor} {v : Value} (h : value depth c = .done v next) :
    next.rest.length < c.rest.length := by
  obtain ⟨steps, _, _, hBytes⟩ := passedOver_value depth c next v h []
  omega

end Passing

end Reader

end AuditDesk.Json
