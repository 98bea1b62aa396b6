import AuditDesk.Json.Decoder
import AuditDesk.Proofs.Json.Folding

/-! Decoding while a text is read comes to the same as reading the value that stands there and trying it
afterwards. A value that can be read at all is read in one of its forms, and each decoder goes through the
cursors of that form. -/
namespace AuditDesk.Json

/-- Where a value can be read, the decoder makes of the text what it makes of the value, and goes on
behind it. -/
def Decoder.Streams {α : Type} (d : Decoder α) : Prop :=
  ∀ ⦃depth : Nat⦄ ⦃c next : Cursor⦄ ⦃v : Value⦄, Reader.value depth c = .done v next →
    (d.text depth c).result? = (d.buffered v).map fun a => (a, next)

namespace Reader

variable {α : Type}

/-- How a value stands at a cursor behind white space, by what it is. A truth value and a number are what no
decoder of texts, nothings and containers takes, so all that is said of them is how they do not begin. -/
inductive Standing (depth : Nat) (c : Cursor) : Value → Cursor → Prop
  | null {next : Cursor} (hPeek : c.peek? = some 'n') (hName : literal "ull".toList c.advance = .done () next) :
      Standing depth c .null next
  | boolean {b : Bool} {first : Char} {next : Cursor} (hPeek : c.peek? = some first)
      (hFirst : ∀ sign ∈ ['n', '"', '[', '\x7b'], first ≠ sign) : Standing depth c (.boolean b) next
  | number {n : Number} {first : Char} {next : Cursor} (hPeek : c.peek? = some first)
      (hFirst : ∀ sign ∈ ['n', '"', '[', '\x7b'], first ≠ sign) : Standing depth c (.number n) next
  | string {s : String} {next : Cursor} (hPeek : c.peek? = some '"') (hString : quoted c = .done s next) :
      Standing depth c (.string s) next
  | array {inner : Nat} {items : List Value} {next last : Cursor} (hDepth : depth = inner + 1)
      (hPeek : c.peek? = some '[') (hItems : Listed (value inner) true c.advance items next)
      (hFuel : items.length < c.advance.rest.length + 1)
      (hClose : closeArray next = .done () last) : Standing depth c (.array items) last
  | object {inner : Nat} {members : List (String × Value)} {next last : Cursor}
      (hDepth : depth = inner + 1) (hPeek : c.peek? = some '\x7b')
      (hMembers : Keyed (value inner) true c.advance members next)
      (hFuel : members.length < c.advance.rest.length + 1)
      (hClose : closeObject next = .done () last) : Standing depth c (.object members) last

theorem standing_of_scalar {depth : Nat} {c next : Cursor} {first : Char} {r : Reader Value} {v : Value}
    (hPeek : c.peek? = some first) (hScalar : scalar? first = some r) (hDone : r c = .done v next) :
    Standing depth c v next := by
  unfold scalar? at hScalar
  split at hScalar
  · cases hScalar
    have hName := literal_done hDone
    obtain ⟨_, _, hSkip, hDone⟩ := done_of_bind hDone
    cases hSkip
    obtain ⟨_, _, _, hDone⟩ := done_of_bind hDone
    cases hDone
    exact .null hPeek hName
  · cases hScalar
    obtain ⟨_, _, _, hDone⟩ := done_of_bind hDone
    obtain ⟨_, _, _, hDone⟩ := done_of_bind hDone
    cases hDone
    exact .boolean hPeek (by simp)
  · cases hScalar
    obtain ⟨_, _, _, hDone⟩ := done_of_bind hDone
    obtain ⟨_, _, _, hDone⟩ := done_of_bind hDone
    cases hDone
    exact .boolean hPeek (by simp)
  · cases hScalar
    obtain ⟨_, _, _, hDone⟩ := done_of_bind hDone
    obtain ⟨n, _, _, hDone⟩ := done_of_bind hDone
    cases hDone
    exact .number hPeek (by simp)
  · cases hScalar
    obtain ⟨s, _, hString, hDone⟩ := done_of_bind hDone
    cases hDone
    exact .string hPeek hString
  · split at hScalar
    · rename_i hDigit
      cases hScalar
      obtain ⟨n, _, _, hDone⟩ := done_of_bind hDone
      cases hDone
      apply Standing.number hPeek
      rintro _ hMem rfl
      simp only [List.mem_cons, List.not_mem_nil, or_false] at hMem
      rcases hMem with rfl | rfl | rfl | rfl <;> cases hDigit
    · cases hScalar

theorem standing_of_value {depth : Nat} {c next : Cursor} {v : Value} (h : value depth c = .done v next) :
    Standing depth c.pastBlanks v next := by
  cases form_of_value h with
  | scalar hPeek hScalar hDone => exact standing_of_scalar hPeek hScalar hDone
  | array hDepth hPeek hItems hFuel hClose => exact .array hDepth hPeek hItems hFuel hClose
  | object hDepth hPeek hMembers hFuel hClose => exact .object hDepth hPeek hMembers hFuel hClose

@[simp]
theorem result?_mismatch (expected : String) (c : Cursor) :
    (mismatch (α := α) expected c).result? = none := by
  rw [mismatch, result?_placed, result?_lookPastBlanks_bind]
  cases c.pastBlanks.peek? with
  | none => rfl
  | some first =>
      by_cases hArray : first = '['
      · subst hArray
        rfl
      by_cases hObject : first = '\x7b'
      · subst hObject
        rfl
      cases hScalar : scalar? first with
      | none =>
          simp only [hScalar]
          rfl
      | some r =>
          simp only [hScalar]
          rw [result?_bind]
          cases (r c.pastBlanks).result? <;> rfl

end Reader

namespace Decoder

open Reader

variable {α β : Type} {d : Decoder α}

theorem Streams.map (h : d.Streams) (f : α → β) : (d.map f).Streams := by
  intro depth c next v hValue
  change ((d.text depth >>= fun a => pure (f a)) c).result? = _
  rw [result?_bind, h hValue]
  cases hBuffered : d.buffered v <;> simp [Decoder.map, hBuffered]

theorem streams_any : Decoder.any.Streams := by
  intro depth c next v hValue
  change ((value depth >>= fun v => pure v.settle) c).result? = _
  rw [bind_of_done _ hValue]
  rfl

theorem result?_tried (name : String) (choose : Value → Option α) (depth : Nat) (c : Cursor) :
    ((Decoder.tried name choose).text depth c).result? =
      (value depth c).result?.bind fun read => (choose read.1).map fun a => (a, read.2) := by
  change ((value depth >>= _) c).result? = _
  rw [result?_bind]
  refine Option.bind_congr fun read _ => ?_
  cases hChosen : choose read.1 <;> simp

theorem streams_tried (name : String) (choose : Value → Option α) : (Decoder.tried name choose).Streams := by
  intro depth c next v hValue
  rw [result?_tried, hValue]
  rfl

theorem streams_string : Decoder.string.Streams := by
  have hMismatch : ∀ {depth : Nat} {c : Cursor} {first : Char}, c.pastBlanks.peek? = some first →
      first ≠ '"' → (Decoder.string.text depth c).result? = none := by
    intro depth c first hPeek hQuote
    refine (result?_lookPastBlanks_bind c _).trans ?_
    simp only [hPeek]
    exact result?_mismatch _ _
  intro depth c next v hValue
  cases standing_of_value hValue with
  | null hPeek => exact hMismatch hPeek (by decide)
  | boolean hPeek hFirst => exact hMismatch hPeek (hFirst _ (by decide))
  | number hPeek hFirst => exact hMismatch hPeek (hFirst _ (by decide))
  | string hPeek hString =>
      have hText : Decoder.string.text depth c = quoted c.pastBlanks :=
        bind_of_done _ (lookPastBlanks_of_peek hPeek)
      exact congrArg Reading.result? (hText.trans hString)
  | array _ hPeek => exact hMismatch hPeek (by decide)
  | object _ hPeek => exact hMismatch hPeek (by decide)

theorem Streams.optional (h : d.Streams) : d.optional.Streams := by
  have hOther : ∀ {depth : Nat} {c next : Cursor} {v : Value} {first : Char},
      value depth c = .done v next → c.pastBlanks.peek? = some first → first ≠ 'n' →
      (d.optional.text depth c).result? = ((d.buffered v).map some).map fun a => (a, next) := by
    intro depth c next v first hValue hPeek hNull
    have hText : d.optional.text depth c = (d.text depth >>= fun a => pure (some a)) c.pastBlanks := by
      have hOther : some first ≠ some 'n' := fun h => hNull (Option.some.inj h)
      refine (bind_of_done _ (lookPastBlanks_of_peek hPeek)).trans ?_
      simp only
    have hHere : value depth c.pastBlanks = .done v next := by
      refine value_of_form ?_
      rw [Cursor.pastBlanks_idem]
      exact form_of_value hValue
    rw [hText, result?_bind, h hHere]
    cases d.buffered v <;> rfl
  intro depth c next v hValue
  cases standing_of_value hValue with
  | null hPeek hName =>
      have hText : d.optional.text depth c = .done none next := by
        refine (bind_of_done _ (lookPastBlanks_of_peek hPeek)).trans ?_
        exact bind_of_done (fun _ => yield none) hName
      rw [hText]
      rfl
  | boolean hPeek hFirst => exact hOther hValue hPeek (hFirst _ (by decide))
  | number hPeek hFirst => exact hOther hValue hPeek (hFirst _ (by decide))
  | string hPeek => exact hOther hValue hPeek (by decide)
  | array _ hPeek => exact hOther hValue hPeek (by decide)
  | object _ hPeek => exact hOther hValue hPeek (by decide)

theorem Streams.list (h : d.Streams) : d.list.Streams := by
  have hMismatch : ∀ {depth : Nat} {c : Cursor} {first : Char}, c.pastBlanks.peek? = some first →
      first ≠ '[' → (d.list.text depth c).result? = none := by
    intro depth c first hPeek hArray
    refine (result?_lookPastBlanks_bind c _).trans ?_
    simp only [hPeek]
    exact result?_mismatch _ _
  intro depth c next v hValue
  cases standing_of_value hValue with
  | null hPeek => exact hMismatch hPeek (by decide)
  | boolean hPeek hFirst => exact hMismatch hPeek (hFirst _ (by decide))
  | number hPeek hFirst => exact hMismatch hPeek (hFirst _ (by decide))
  | string hPeek => exact hMismatch hPeek (by decide)
  | @array inner items behind _ hDepth hPeek hItems hFuel hClose =>
      subst hDepth
      have hStep : ∀ found start v behind, value inner start = .done v behind →
          (collect (d.text inner) found start).result? =
            ((d.buffered v).map (· :: found)).map fun found => (found, behind) := by
        intro found start v behind hRead
        rw [collect, result?_bind, h hRead]
        cases d.buffered v <;> rfl
      have hLoop := result?_itemsFrom (collect (d.text inner)) (fun found v => (d.buffered v).map (· :: found))
        hItems hStep hFuel []
      rw [foldlM_found] at hLoop
      have hText : d.list.text (inner + 1) c =
          (placed (closing (Reader.items (collect (d.text inner)) []) closeArray) >>=
            fun found => yield found.reverse) c.pastBlanks.advance :=
        bind_of_done _ (lookPastBlanks_of_peek hPeek)
      rw [hText, result?_bind, result?_placed, result?_closing, Reader.items, hLoop]
      change _ = (items.mapM d.buffered).map _
      cases items.mapM d.buffered with
      | none => rfl
      | some as =>
          simp only [Option.map_some, Option.bind_some, hClose, Reading.result?_done, List.append_nil,
            List.reverse_reverse]
          rfl
  | object _ hPeek => exact hMismatch hPeek (by decide)

section Choice

theorem onlyKey_of_quoted {c start named : Cursor} {key : String} (hStart : nextKey true c = .done true start)
    (hKey : quoted start = .done key named) : onlyKey c = .done key named := by
  obtain ⟨hQuote, rfl⟩ := nextKey_true hStart
  exact (bind_of_done _ (lookPastBlanks_of_peek hQuote)).trans hKey

theorem nullOnly_of_value {depth : Nat} {c next : Cursor} {v : Value} (h : value depth c = .done v next) :
    v = .null ∧ nullOnly c = .done () next ∨ v ≠ .null ∧ (nullOnly c).result? = none := by
  have hMismatch : ∀ {first : Char}, c.pastBlanks.peek? = some first → first ≠ 'n' →
      (nullOnly c).result? = none := by
    intro first hPeek hNull
    refine (result?_lookPastBlanks_bind c _).trans ?_
    simp only [hPeek]
    exact result?_mismatch _ _
  cases standing_of_value h with
  | null hPeek hName => exact .inl ⟨rfl, (bind_of_done _ (lookPastBlanks_of_peek hPeek)).trans hName⟩
  | boolean hPeek hFirst => exact .inr ⟨nofun, hMismatch hPeek (hFirst _ (by decide))⟩
  | number hPeek hFirst => exact .inr ⟨nofun, hMismatch hPeek (hFirst _ (by decide))⟩
  | string hPeek => exact .inr ⟨nofun, hMismatch hPeek (by decide)⟩
  | array _ hPeek => exact .inr ⟨nofun, hMismatch hPeek (by decide)⟩
  | object _ hPeek => exact .inr ⟨nofun, hMismatch hPeek (by decide)⟩

theorem choice_buffered_eq_none {choices : List (String × α)} {members : List (String × Value)}
    (h : ∀ key, members = [(key, .null)] → (chosen choices key).toOption = none) :
    (Decoder.choice choices).buffered (.object members) = none := by
  simp only [Decoder.choice]
  split
  · rename_i hString
    cases hString
  · rename_i key hObject
    cases hObject
    exact h key rfl
  · rfl

/-- Behind the opening brace of a choice: its name, nothing, and the closing brace. -/
theorem result?_onlyMember (choices : List (String × α)) {inner : Nat} {c next last : Cursor}
    {members : List (String × Value)} (h : Keyed (value inner) true c members next)
    (hClose : closeObject next = .done () last) :
    ((do
      let a ← placed do ofExcept (chosen choices (← onlyKey))
      colon
      nullOnly
      match ← lookPastBlanks with
      | some '\x7d' => skip
      | some _ => failHere .expectedValue
      | none => failHere .endOfObject
      yield a : Reader α) c).result? =
        ((Decoder.choice choices).buffered (.object members)).map fun a => (a, last) := by
  cases h with
  | nil hEnd =>
      obtain ⟨hPeek, rfl⟩ := nextKey_false hEnd
      rw [result?_bind, result?_placed, result?_bind, onlyKey, result?_lookPastBlanks_bind, hPeek]
      rfl
  | @cons _ _ start named valued behind _ key v members hNext hKey hColon hItem more =>
      rw [result?_bind, result?_placed, bind_of_done _ (onlyKey_of_quoted hNext hKey), result?_ofExcept]
      cases hChosen : chosen choices key with
      | error cause =>
          rw [choice_buffered_eq_none]
          · rfl
          · rintro _ ⟨⟩
            rw [hChosen]
            rfl
      | ok a =>
          simp only [Except.toOption, Option.map_some, Option.bind_some]
          rw [bind_of_done _ hColon, result?_bind]
          rcases nullOnly_of_value hItem with ⟨rfl, hNull⟩ | ⟨hValue, hNone⟩
          · rw [hNull, Reading.result?_done, Option.bind_some]
            refine (result?_lookPastBlanks_bind behind _).trans ?_
            cases more with
            | nil hEnd =>
                obtain ⟨hPeek, rfl⟩ := nextKey_false hEnd
                obtain rfl := closeObject_done hPeek (Cursor.pastBlanks_idem behind) hClose
                have hName : (Decoder.choice choices).buffered (.object [(key, .null)]) = some a :=
                  congrArg Except.toOption hChosen
                rw [hPeek, hName]
                rfl
            | cons hAnother =>
                obtain ⟨_, hComma, _⟩ := nextKey_true hAnother
                rw [hComma, choice_buffered_eq_none]
                · rfl
                · intro _ hOnly
                  simp at hOnly
          · rw [hNone, choice_buffered_eq_none]
            · rfl
            · rintro _ ⟨⟩
              exact absurd rfl hValue

theorem streams_choice (choices : List (String × α)) : (Decoder.choice choices).Streams := by
  have hRefused : ∀ {depth : Nat} {c : Cursor} {first : Char}, c.pastBlanks.peek? = some first →
      first ≠ '"' → first ≠ '\x7b' → ((Decoder.choice choices).text depth c).result? = none := by
    intro depth c first hPeek hQuote hObject
    refine (result?_lookPastBlanks_bind c _).trans ?_
    simp only [hPeek]
    rfl
  intro depth c next v hValue
  cases standing_of_value hValue with
  | null hPeek => exact hRefused hPeek (by decide) (by decide)
  | boolean hPeek hFirst => exact hRefused hPeek (hFirst _ (by decide)) (hFirst _ (by decide))
  | number hPeek hFirst => exact hRefused hPeek (hFirst _ (by decide)) (hFirst _ (by decide))
  | string hPeek hString =>
      have hText : (Decoder.choice choices).text depth c =
          placed (do ofExcept (chosen choices (← quoted))) c.pastBlanks :=
        bind_of_done _ (lookPastBlanks_of_peek hPeek)
      rw [hText, result?_placed, bind_of_done _ hString, result?_ofExcept]
      rfl
  | array _ hPeek => exact hRefused hPeek (by decide) (by decide)
  | object hDepth hPeek hMembers _ hClose =>
      subst hDepth
      exact (congrArg Reading.result? (bind_of_done _ (lookPastBlanks_of_peek hPeek))).trans
        (result?_onlyMember choices hMembers hClose)

end Choice

end Decoder

namespace Reader

variable {σ α : Type}

theorem result?_built (build : σ → Except Cause α) (body : Reader σ) (close : Reader Unit) (c : Cursor) :
    (placed (closing (do ofExcept (build (← body))) close) c).result? =
      (body c).result?.bind fun read => (build read.1).toOption.bind fun a =>
        (close read.2).result?.map fun closed => (a, closed.2) := by
  rw [result?_placed, result?_closing, result?_bind]
  cases (body c).result? with
  | none => rfl
  | some read =>
      rw [Option.bind_some, Option.bind_some, result?_ofExcept]
      cases build read.1 <;> rfl

/-- An array cannot be closed in front of an item. -/
theorem closeArray_left {first : Bool} {c start : Cursor} (h : nextItem first c = .done true start) :
    (closeArray c).result? = none := by
  obtain ⟨sign, hPeek, hOpen, _⟩ := nextItem_true h
  rw [closeArray, result?_lookPastBlanks_bind, hPeek]
  by_cases hComma : sign = ','
  · subst hComma
    have hSkip : skip c.pastBlanks = .done () c.pastBlanks.advance := rfl
    simp only
    rw [bind_of_done _ hSkip, result?_lookPastBlanks_bind]
    by_cases hTrailing : c.pastBlanks.advance.pastBlanks.peek? = some ']'
    · rw [hTrailing]
      rfl
    · simp only
      rfl
  · simp only
    rfl

theorem nextItem_of_listed {item : Reader Value} {first : Bool} {c next : Cursor} {v : Value} {items : List Value}
    (h : Listed item first c (v :: items) next) : ∃ start, nextItem first c = .done true start := by
  cases h with
  | cons hNext => exact ⟨_, hNext⟩

theorem closeArray_listed {item : Reader Value} {first : Bool} {c next : Cursor}
    (h : Listed item first c [] next) : closeArray c = closeArray next := by
  cases h with
  | nil hEnd =>
      obtain ⟨_, rfl⟩ := nextItem_false hEnd
      rw [closeArray, lookPastBlanks_pastBlanks]

end Reader

namespace RecordForm

open Reader

variable {σ α : Type} {form : RecordForm σ α}

/-- What is read for the value of a member is what the value is worth to its field, if it has one. -/
theorem result?_readMember (hFields : ∀ f ∈ form.fields, f.filled.Streams) {depth : Nat} (key : String) (s : σ)
    (named valued : Cursor) (v : Value) (behind : Cursor) (hColon : colon named = .done () valued)
    (hValue : value depth valued = .done v behind) :
    (form.readMember depth key s named).result? = (form.bufferMember s (key, v)).map fun t => (t, behind) := by
  rw [readMember, bufferMember]
  cases hField : form.field? key with
  | none =>
      simp only
      rw [bind_of_done _ hColon, bind_of_done _ (skipValue_of_value hValue)]
      rfl
  | some f =>
      have hMem : f ∈ form.fields := List.mem_of_find?_eq_some hField
      simp only
      by_cases hSet : f.isSet s = true
      · rw [if_pos hSet, if_pos hSet]
        rfl
      · rw [if_neg hSet, if_neg hSet, bind_of_done _ hColon, result?_bind, hFields f hMem hValue]
        cases f.filled.buffered v <;> rfl

/-- The fields take the items one after the other and leave the rest, if any, in front of them. -/
theorem readItems_listed (fields : List (Field σ)) (hFields : ∀ f ∈ fields, f.filled.Streams) {depth : Nat}
    {first : Bool} {c next : Cursor} {items : List Value} (h : Listed (value depth) first c items next)
    (index : Nat) (s : σ) :
    ((form.readItems depth index first fields s c).result? = none ∧ bufferItems fields items s = none) ∨
      ∃ t left last more, form.readItems depth index first fields s c = .done t last ∧
        bufferItems fields items s = some (t, left) ∧ Listed (value depth) more last left next := by
  induction fields generalizing first c items index s with
  | nil => exact .inr ⟨s, items, c, first, rfl, rfl, h⟩
  | cons f fields ih =>
      have hRest : ∀ g ∈ fields, g.filled.Streams := fun g hg => hFields g (List.mem_cons_of_mem _ hg)
      cases h with
      | nil hEnd =>
          rw [readItems, bind_of_done _ hEnd, bufferItems, if_neg Bool.false_ne_true]
          by_cases hMayEnd : f.mayEnd = true
          · rw [if_pos hMayEnd, if_pos hMayEnd]
            have hAgain : nextItem first next = .done false next := by
              obtain ⟨_, rfl⟩ := nextItem_false hEnd
              rw [nextItem, lookPastBlanks_pastBlanks]
              exact hEnd
            exact ih hRest (.nil hAgain) (index + 1) s
          · rw [if_neg hMayEnd, if_neg hMayEnd]
            exact .inl ⟨rfl, rfl⟩
      | @cons _ _ start behind _ v items hNext hItem more =>
          rw [readItems, bind_of_done _ hNext, bufferItems, if_pos rfl]
          have hRead := hFields f List.mem_cons_self hItem
          cases hPut : f.filled.buffered v with
          | none =>
              rw [hPut] at hRead
              refine .inl ⟨?_, rfl⟩
              rw [result?_bind, hRead]
              rfl
          | some put =>
              rw [hPut] at hRead
              rw [bind_of_done _ (Reading.result?_eq_some.mp hRead)]
              exact ih hRest more (index + 1) (put s)

theorem streams_decoder (hFields : ∀ f ∈ form.fields, f.filled.Streams) : form.decoder.Streams := by
  have hMismatch : ∀ {depth : Nat} {c : Cursor} {first : Char}, c.pastBlanks.peek? = some first →
      first ≠ '[' → first ≠ '\x7b' → (form.decoder.text depth c).result? = none := by
    intro depth c first hPeek hArray hObject
    refine (result?_lookPastBlanks_bind c _).trans ?_
    simp only [hPeek]
    exact result?_mismatch _ _
  intro depth c next v hValue
  cases standing_of_value hValue with
  | null hPeek => exact hMismatch hPeek (by decide) (by decide)
  | boolean hPeek hFirst => exact hMismatch hPeek (hFirst _ (by decide)) (hFirst _ (by decide))
  | number hPeek hFirst => exact hMismatch hPeek (hFirst _ (by decide)) (hFirst _ (by decide))
  | string hPeek => exact hMismatch hPeek (by decide) (by decide)
  | @array inner items behind _ hDepth hPeek hItems hFuel hClose =>
      subst hDepth
      have hText : form.decoder.text (inner + 1) c =
          placed (closing (do ofExcept (form.build (← form.readItems inner 0 true form.fields form.empty)))
            closeArray) c.pastBlanks.advance :=
        bind_of_done _ (lookPastBlanks_of_peek hPeek)
      rw [hText, result?_built]
      change _ = (form.buffer (.array items)).map _
      rw [buffer]
      rcases readItems_listed form.fields hFields hItems 0 form.empty with
        ⟨hFailed, hNone⟩ | ⟨t, left, last, more, hRead, hSome, hLeft⟩
      · rw [hFailed, hNone]
        rfl
      · rw [hRead, hSome, Reading.result?_done]
        simp only [Option.bind_some, Option.bind_eq_bind]
        cases left with
        | nil =>
            rw [closeArray_listed hLeft, hClose]
            cases form.build t <;> rfl
        | cons v left =>
            obtain ⟨start, hNext⟩ := nextItem_of_listed hLeft
            rw [closeArray_left hNext]
            cases form.build t <;> rfl
  | @object inner members behind _ hDepth hPeek hMembers hFuel hClose =>
      subst hDepth
      have hText : form.decoder.text (inner + 1) c =
          placed (closing
            (do ofExcept (form.build (← Reader.members quoted (form.readMember inner) form.empty)))
            closeObject) c.pastBlanks.advance :=
        bind_of_done _ (lookPastBlanks_of_peek hPeek)
      have hLoop := result?_membersFrom (form.readMember inner) form.bufferMember hMembers
        (result?_readMember hFields) hFuel form.empty
      rw [hText, result?_built, Reader.members, hLoop]
      change _ = (form.buffer (.object members)).map _
      rw [buffer]
      cases members.foldlM form.bufferMember form.empty with
      | none => rfl
      | some t =>
          simp only [Option.bind_some, Option.bind_eq_bind, Option.map_some, hClose]
          cases form.build t <;> rfl

end RecordForm

section Texts

variable {α : Type} {d : Decoder α}

theorem Decoder.Streams.whole (h : d.Streams) {depth : Nat} {text : List UInt8} {v : Value}
    (hValue : Reader.whole (Reader.value depth) text = .ok v) :
    (Reader.whole (d.text depth) text).toOption = d.buffered v := by
  obtain ⟨next, hDone, hEnd⟩ := Reader.whole_eq_ok.mp hValue
  rw [Reader.toOption_whole, h hDone]
  cases d.buffered v with
  | none => rfl
  | some a => simp [hEnd]

/-- A decoder makes of a text what it makes of the value that the text holds. -/
theorem Decoder.Streams.ofText (h : d.Streams) {text : String} {v : Value} (hValue : Value.ofText text = .ok v) :
    (d.ofText text).toOption = d.buffered v :=
  h.whole hValue

/-- A text is read whole and then tried, so that nothing is made of a text that holds no value. -/
theorem Decoder.toOption_tried (name : String) (choose : Value → Option α) (text : String) :
    ((Decoder.tried name choose).ofText text).toOption = (Value.ofText text).toOption.bind choose := by
  rw [Decoder.ofText, Decoder.ofBytes, Value.ofText, Reader.toOption_whole, Reader.toOption_whole,
    Decoder.result?_tried]
  cases (Reader.value Reader.nestingLimit (.start (Text.bytes text))).result? with
  | none => rfl
  | some read =>
      obtain ⟨v, next⟩ := read
      by_cases hEnd : next.pastBlanks.peek? = none
      · cases hChosen : choose v <;> simp [hEnd, hChosen]
      · cases hChosen : choose v <;> simp [hEnd, hChosen]

end Texts

end AuditDesk.Json
