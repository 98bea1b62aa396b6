import Mathlib.Data.List.Forall2
import AuditDesk.Proofs.Json.Layout
import AuditDesk.Proofs.Json.Numerals

/-! Which spelled values can be read. What is made of one depends on its characters alone, and something is
made of it exactly when its numbers are in range, its texts mean something and it is not too deep. -/
namespace AuditDesk.Json

open Text

namespace Spelling

theorem NumberText.start (n : NumberText) : ∃ sign more, n.chars = sign :: more ∧
    (sign = '-' ∨ sign.isDigit = true) := by
  obtain ⟨c, cs, hDigits, hChars, _⟩ := Reader.unsigned_start n
  rw [NumberText.chars, hChars]
  split
  · exact ⟨_, _, rfl, .inl rfl⟩
  · exact ⟨_, _, rfl, .inr (hDigits c List.mem_cons_self)⟩

theorem opensValue_number {sign : Char} (h : sign = '-' ∨ sign.isDigit = true) : opensValue sign = true := by
  rcases h with rfl | hDigit
  · rfl
  · simp [opensValue, hDigit]

/-- What a spelled value is can be told from its first character. -/
theorem Spelled.start {admitted : Admission} {depth : Nat} {cs : List Char} (h : Spelled admitted depth cs) :
    ∃ sign more, cs = sign :: more ∧ opensValue sign = true ∧ (sign = 'n' → cs = "null".toList) ∧
      (sign = '"' → ∃ pieces, cs = quotation pieces) ∧
      (sign = '[' → ∃ items inside, cs = arrayChars items inside ∧
        ∀ i ∈ items, ∃ inner, Spelled admitted inner i.body) ∧
      (sign = '\x7b' → ∃ members inside, cs = objectChars members inside ∧
        ∀ m ∈ members, ∃ inner, Spelled admitted inner m.item.body) := by
  cases h with
  | null => exact ⟨'n', _, rfl, rfl, fun _ => rfl, nofun, nofun, nofun⟩
  | yes => exact ⟨'t', _, rfl, rfl, nofun, nofun, nofun, nofun⟩
  | no => exact ⟨'f', _, rfl, rfl, nofun, nofun, nofun, nofun⟩
  | @number _ n _ =>
      obtain ⟨sign, more, hChars, hSign⟩ := n.start
      have hOther : ∀ other ∈ ['n', '"', '[', '\x7b'], sign ≠ other := by
        rintro _ hMem rfl
        simp only [List.mem_cons, List.not_mem_nil, or_false] at hMem
        rcases hMem with rfl | rfl | rfl | rfl <;> simp at hSign
      exact ⟨sign, more, hChars, opensValue_number hSign, fun h => absurd h (hOther _ (by simp)),
        fun h => absurd h (hOther _ (by simp)), fun h => absurd h (hOther _ (by simp)),
        fun h => absurd h (hOther _ (by simp))⟩
  | string _ => exact ⟨'"', _, rfl, rfl, nofun, fun _ => ⟨_, rfl⟩, nofun, nofun⟩
  | array hItems =>
      exact ⟨'[', _, rfl, rfl, nofun, nofun, fun _ => ⟨_, _, rfl, fun i hi => ⟨_, hItems i hi⟩⟩, nofun⟩
  | object _ hMembers =>
      exact ⟨'\x7b', _, rfl, rfl, nofun, nofun, nofun, fun _ => ⟨_, _, rfl, fun m hm => ⟨_, hMembers m hm⟩⟩⟩

theorem Spelled.opens {admitted : Admission} {depth : Nat} {cs : List Char} (h : Spelled admitted depth cs) :
    ∃ sign more, cs = sign :: more ∧ opensValue sign = true := by
  obtain ⟨sign, more, hChars, hOpens, _⟩ := h.start
  exact ⟨sign, more, hChars, hOpens⟩

theorem WellFormed.opens {cs : List Char} (h : WellFormed cs) :
    ∃ sign more, cs = sign :: more ∧ opensValue sign = true := by
  obtain ⟨_, hSpelled⟩ := h
  exact hSpelled.opens

end Spelling

namespace Reader

open Spelling

section Scalars

variable (limit : Nat)

theorem takes_scalar (sign : Char) {more : List Char} {r : Reader Value} {made : Option Value}
    (hOpens : opensValue sign = true) (hScalar : scalar? sign = some r) (h : r.Yields (sign :: more) made) :
    (value limit).Takes (sign :: more) made := by
  have hRead : ∀ inner?, (valueOver inner?).Takes (sign :: more) made := by
    intro inner?
    refine takes_of_look sign hOpens ?_
    simp only [hScalar]
    exact h
  cases limit with
  | zero => exact hRead none
  | succ limit => exact hRead (some (value limit))

theorem takes_null : (value limit).Takes "null".toList (some .null) :=
  takes_scalar limit 'n' rfl rfl fun _ _ _ => ⟨_, rfl⟩

theorem takes_true : (value limit).Takes "true".toList (some (.boolean true)) :=
  takes_scalar limit 't' rfl rfl fun _ _ _ => ⟨_, rfl⟩

theorem takes_false : (value limit).Takes "false".toList (some (.boolean false)) :=
  takes_scalar limit 'f' rfl rfl fun _ _ _ => ⟨_, rfl⟩

/-- Whether a number is in range has nothing to do with depth. -/
theorem takes_number (n : NumberText) : ∃ made, ∀ limit, (value limit).Takes n.chars made := by
  obtain ⟨made, hMade⟩ := yields_unsigned (!n.negative) n
  obtain ⟨c, cs, hDigits, hChars, _⟩ := unsigned_start n
  have hDigit := hDigits c List.mem_cons_self
  refine ⟨made.map .number, fun limit => ?_⟩
  rw [NumberText.chars]
  cases hSign : n.negative with
  | true =>
      rw [hSign, Bool.not_true] at hMade
      exact takes_scalar limit '-' rfl rfl (yields_skip _ rfl (hMade.map Value.number))
  | false =>
      rw [hSign, Bool.not_false] at hMade
      rw [if_neg Bool.false_ne_true]
      rw [hChars] at hMade ⊢
      exact takes_scalar limit c (by simp [opensValue, hDigit]) (scalar?_digit hDigit) (hMade.map Value.number)

theorem inRange_iff (n : NumberText) : n.InRange ↔ ((value limit).made n.chars).isSome = true := by
  obtain ⟨made, hMade⟩ := takes_number n
  have hText := (hMade nestingLimit).whole .none .none
  rw [(hMade limit).made_eq, NumberText.InRange]
  have hBytes : encoded (Blanks.none.chars ++ (n.chars ++ Blanks.none.chars)) =
      Text.bytes (String.ofList n.chars) := by
    rw [bytes_ofList]
    simp [Blanks.none]
  rw [hBytes] at hText
  rw [← hText, Option.isSome_iff_exists]
  simp only [toOption_eq_some]
  rfl

theorem yields_quoted (pieces : List Piece) :
    quoted.Yields (quotation pieces) ((meaning pieces).map String.ofList) := by
  intro rest p _
  obtain ⟨q, hRead⟩ := result?_quoted pieces rest p
  refine ⟨q, hRead.trans ?_⟩
  cases meaning pieces <;> rfl

theorem takes_string (pieces : List Piece) : (value limit).Takes (quotation pieces)
    ((meaning pieces).map fun cs => .string (String.ofList cs)) := by
  refine takes_scalar limit '"' rfl rfl ?_
  have hValue := (yields_quoted pieces).map Value.string
  rw [Option.map_map] at hValue
  exact hValue

end Scalars

section Containers

variable {inner : Nat} (inside : Blanks)

/-- What comes of the items of an array, if anything comes of all of them. -/
theorem yields_array {α β : Type} {r : Reader α} {items : List Item} (hItems : ∀ i ∈ items, ∃ sign more,
    i.body = sign :: more ∧ opensValue sign = true) (h : ∀ i ∈ items, r.Spans i.body) (f : List α → β) :
    (do
      skip
      let found ← placed (closing (Reader.items (collect r) []) closeArray)
      yield (f found.reverse) : Reader β).Yields (arrayChars items inside)
        ((items.mapM fun i => r.made i.body).map f) := by
  have hStep : ∀ i ∈ items, ∀ found, (collect r found).Yields i.body ((r.made i.body).map (· :: found)) :=
    fun i hi found => (h i hi).yields.map _
  have hLoop := ((yields_items inside hItems hStep []).placed).map fun found => f found.reverse
  rw [foldlM_found, Option.map_map] at hLoop
  have hArray := yields_skip '[' rfl hLoop
  simp only [Function.comp_def, List.append_nil, List.reverse_reverse] at hArray
  exact hArray

theorem takes_array {items : List Item} (hItems : ∀ i ∈ items, ∃ sign more, i.body = sign :: more ∧
    opensValue sign = true) (h : ∀ i ∈ items, (value inner).Spans i.body) :
    (value (inner + 1)).Takes (arrayChars items inside)
      ((items.mapM fun i => (value inner).made i.body).map .array) :=
  takes_of_look '[' rfl (yields_array inside hItems h Value.array)

/-- What comes of an object, if anything comes of all its keys and values. -/
theorem takes_object {members : List Member} (h : ∀ m ∈ members, (value inner).Spans m.item.body) :
    (value (inner + 1)).Takes (objectChars members inside)
      ((members.mapM fun m => (meaning m.key).bind fun key =>
        ((value inner).made m.item.body).map fun v => (String.ofList key, v)).map .object) := by
  refine takes_of_look '\x7b' rfl ?_
  have hStep : ∀ m ∈ members, ∀ key found, (collectMember (value inner) key found).Yields m.valued
      (((value inner).made m.item.body).map fun v => (key, v) :: found) :=
    fun m hm key found => yields_valued ((h m hm).map _)
  have hLoop := ((yields_members inside hStep []).placed).map fun found => Value.object found.reverse
  have hFold : underKey (fun key m found => ((value inner).made m.item.body).map fun v => (key, v) :: found) =
      fun found m => ((meaning m.key).bind fun key =>
        ((value inner).made m.item.body).map fun v => (String.ofList key, v)).map (· :: found) := by
    funext found m
    rw [underKey, Option.map_bind]
    simp only [Option.map_map, Function.comp_def]
  rw [hFold, foldlM_found, Option.map_map] at hLoop
  have hObject := yields_skip '\x7b' rfl hLoop
  simp only [Function.comp_def, List.append_nil, List.reverse_reverse] at hObject
  exact hObject

theorem takes_too_deep {sign : Char} (hSign : sign = '[' ∨ sign = '\x7b') (more : List Char) :
    (value 0).Takes (sign :: more) none := by
  rcases hSign with rfl | rfl
  · exact takes_none_of_look '[' rfl fun _ => rfl
  · exact takes_none_of_look '\x7b' rfl fun _ => rfl

end Containers

section Values

variable {admitted : Admission} {depth : Nat} {cs : List Char}

/-- However deep a value is and whatever is in it, what is made of it depends on its characters alone. -/
theorem spans_value (h : Spelled admitted depth cs) (limit : Nat) : (value limit).Spans cs := by
  induction h generalizing limit with
  | null => exact (takes_null limit).spans
  | yes => exact (takes_true limit).spans
  | no => exact (takes_false limit).spans
  | @number _ n _ =>
      obtain ⟨made, hMade⟩ := takes_number n
      exact (hMade limit).spans
  | @string _ pieces _ => exact (takes_string limit pieces).spans
  | array hItems ih =>
      cases limit with
      | zero => exact (takes_too_deep (.inl rfl) _).spans
      | succ inner => exact (takes_array _ (fun i hi => (hItems i hi).opens) fun i hi => ih i hi inner).spans
  | object _ _ ih =>
      cases limit with
      | zero => exact (takes_too_deep (.inr rfl) _).spans
      | succ inner => exact (takes_object _ fun m hm => ih m hm inner).spans

theorem isSome_mapM {ι α : Type} (f : ι → Option α) (is : List ι) :
    (is.mapM f).isSome = true ↔ ∀ i ∈ is, (f i).isSome = true := by
  induction is with
  | nil => simp
  | cons i is ih =>
      rw [List.mapM_cons, List.forall_mem_cons, ← ih]
      cases f i with
      | none => simp
      | some a => cases is.mapM f <;> simp

theorem forall₂_of_mapM {ι α : Type} {f : ι → Option α} {is : List ι} {as : List α} (h : is.mapM f = some as) :
    List.Forall₂ (fun i a => f i = some a) is as := by
  induction is generalizing as with
  | nil =>
      cases h
      exact .nil
  | cons i is ih =>
      rw [List.mapM_cons] at h
      obtain ⟨a, hFirst, h⟩ := Option.bind_eq_some_iff.mp h
      obtain ⟨rest, hRest, hCons⟩ := Option.bind_eq_some_iff.mp h
      cases hCons
      exact .cons hFirst (ih hRest)

/-- Whatever is read keeps within the limits. -/
theorem readable_of_made (h : Spelled admitted depth cs) {limit : Nat}
    (hMade : ((value limit).made cs).isSome = true) : Readable limit cs := by
  induction h generalizing limit with
  | null => exact .null
  | yes => exact .yes
  | no => exact .no
  | @number _ n _ => exact .number ((inRange_iff limit n).mpr hMade)
  | @string _ pieces _ =>
      rw [(takes_string limit pieces).made_eq, Option.isSome_map] at hMade
      exact .string hMade
  | @array _ items inside hItems ih =>
      cases limit with
      | zero =>
          rw [arrayChars, (takes_too_deep (.inl rfl) _).made_eq] at hMade
          cases hMade
      | succ inner =>
          have hSpans : ∀ i ∈ items, (value inner).Spans i.body := fun i hi => spans_value (hItems i hi) inner
          rw [(takes_array inside (fun i hi => (hItems i hi).opens) hSpans).made_eq, Option.isSome_map,
            isSome_mapM] at hMade
          exact .array fun i hi => ih i hi (hMade i hi)
  | @object _ members inside _ hMembers ih =>
      cases limit with
      | zero =>
          rw [objectChars, (takes_too_deep (.inr rfl) _).made_eq] at hMade
          cases hMade
      | succ inner =>
          have hSpans : ∀ m ∈ members, (value inner).Spans m.item.body :=
            fun m hm => spans_value (hMembers m hm) inner
          rw [(takes_object inside hSpans).made_eq, Option.isSome_map, isSome_mapM] at hMade
          have hMember : ∀ m ∈ members, (meaning m.key).isSome = true ∧
              ((value inner).made m.item.body).isSome = true := by
            intro m hm
            have hSome := hMade m hm
            cases hKey : meaning m.key with
            | none =>
                rw [hKey] at hSome
                cases hSome
            | some key =>
                rw [hKey, Option.bind_some, Option.isSome_map] at hSome
                exact ⟨rfl, hSome⟩
          exact .object (fun m hm => (hMember m hm).1) fun m hm => ih m hm (hMember m hm).2

/-- Within the limits a value is read. -/
theorem made_of_readable (h : Readable depth cs) : ((value depth).made cs).isSome = true := by
  induction h with
  | null => rw [(takes_null _).made_eq]; rfl
  | yes => rw [(takes_true _).made_eq]; rfl
  | no => rw [(takes_false _).made_eq]; rfl
  | @number depth n hRange => exact (inRange_iff depth n).mp hRange
  | @string depth pieces hMeaning => rwa [(takes_string depth pieces).made_eq, Option.isSome_map]
  | @array depth items inside hItems ih =>
      have hSpans : ∀ i ∈ items, (value depth).Spans i.body := fun i hi => spans_value (hItems i hi) depth
      rw [(takes_array inside (fun i hi => (hItems i hi).opens) hSpans).made_eq, Option.isSome_map, isSome_mapM]
      exact ih
  | @object depth members inside hKeys hMembers ih =>
      have hSpans : ∀ m ∈ members, (value depth).Spans m.item.body :=
        fun m hm => spans_value (hMembers m hm) depth
      rw [(takes_object inside hSpans).made_eq, Option.isSome_map, isSome_mapM]
      intro m hm
      obtain ⟨key, hKey⟩ := Option.isSome_iff_exists.mp (hKeys m hm)
      rw [hKey, Option.bind_some, Option.isSome_map]
      exact ih m hm

theorem made_iff_readable (h : WellFormed cs) (limit : Nat) :
    ((value limit).made cs).isSome = true ↔ Readable limit cs := by
  obtain ⟨depth, h⟩ := h
  exact ⟨readable_of_made h, made_of_readable⟩

/-- Only a text between quotes is read as a text, and as the one that it means. -/
theorem made_eq_string_iff (h : WellFormed cs) (limit : Nat) (s : String) :
    (value limit).made cs = some (.string s) ↔ ∃ pieces, cs = quotation pieces ∧ meaning pieces = some s.toList := by
  constructor
  · intro hMade
    obtain ⟨depth, h⟩ := h
    obtain ⟨⟨v, next⟩, hRead, hValue⟩ := Option.map_eq_some_iff.mp hMade
    obtain rfl : v = .string s := hValue
    obtain ⟨sign, more, rfl, hOpens, _, hQuotation, _⟩ := h.start
    have hStanding := standing_of_value (Reading.result?_eq_some.mp hRead)
    obtain ⟨hBlanks, hPeek⟩ := pastBlanks_opening hOpens more [] .start
    rw [List.append_nil] at hBlanks hPeek
    rw [hBlanks] at hStanding
    cases hStanding with
    | string hQuote =>
        obtain ⟨pieces, hText⟩ := hQuotation (Option.some.inj (hPeek.symm.trans hQuote))
        rw [hText, (takes_string limit pieces).made_eq] at hMade
        obtain ⟨meant, hMeaning, hSame⟩ := Option.map_eq_some_iff.mp hMade
        obtain rfl : String.ofList meant = s := Value.string.inj hSame
        exact ⟨pieces, hText, by rw [hMeaning, String.toList_ofList]⟩
  · rintro ⟨pieces, rfl, hMeaning⟩
    rw [(takes_string limit pieces).made_eq, hMeaning, Option.map_some, String.ofList_toList]

/-- A value that stands alone in a text. -/
theorem toOption_ofText (h : WellFormed cs) (before behind : Blanks) :
    (Value.ofText (String.ofList (before.chars ++ (cs ++ behind.chars)))).toOption =
      (value nestingLimit).made cs := by
  obtain ⟨_, h⟩ := h
  rw [Value.ofText, bytes_ofList]
  exact (spans_value h nestingLimit).whole before behind

end Values

end Reader

end AuditDesk.Json
