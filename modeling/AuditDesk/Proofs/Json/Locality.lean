import AuditDesk.Proofs.Json.Skimmed

/-! What a decoder makes of a spelled value depends on the characters of the value alone. This holds for
every decoder that is put together from others, also where it skips what it does not ask for. -/
namespace AuditDesk.Json

open Reader Spelling

/-- It makes no difference to the decoder what stands around a value. -/
def Decoder.Local {α : Type} (d : Decoder α) : Prop :=
  ∀ (depth : Nat) ⦃cs : List Char⦄, WellFormed cs → (d.text depth).Spans cs

namespace Decoder

variable {α β : Type} {d : Decoder α}

theorem Local.map (h : d.Local) (f : α → β) : (d.map f).Local :=
  fun depth _ hSpelled => ((h depth hSpelled).map f).spans

theorem local_any : Decoder.any.Local :=
  fun depth _ ⟨_, hSpelled⟩ => ((spans_value hSpelled depth).map Value.settle).spans

theorem local_tried (name : String) (choose : Value → Option α) : (Decoder.tried name choose).Local := by
  intro depth cs hSpelled
  obtain ⟨_, hSpelled⟩ := hSpelled
  have hTaken : ((Decoder.tried name choose).text depth).Takes cs (((value depth).made cs).bind choose) := by
    intro gap
    refine (spans_value hSpelled depth gap).bind fun v c => ?_
    cases choose v <;> rfl
  exact hTaken.spans

theorem local_string : Decoder.string.Local := by
  intro depth cs hSpelled
  obtain ⟨_, hSpelled⟩ := hSpelled
  obtain ⟨sign, more, hChars, hOpens, _, hQuote, _⟩ := hSpelled.start
  by_cases hSign : sign = '"'
  · obtain ⟨pieces, rfl⟩ := hQuote hSign
    exact (takes_of_look '"' rfl (yields_quoted pieces)).spans
  · rw [hChars]
    refine (takes_none_of_look sign hOpens fun c => ?_).spans
    simp only
    exact result?_mismatch _ c

theorem Local.takes_optional (h : d.Local) {cs : List Char} (hSpelled : WellFormed cs)
    (hNull : cs ≠ "null".toList) (depth : Nat) :
    (d.optional.text depth).Takes cs (((d.text depth).made cs).map some) := by
  have hInner := (h depth hSpelled).yields
  obtain ⟨_, hSpelled⟩ := hSpelled
  obtain ⟨sign, more, rfl, hOpens, hName, _⟩ := hSpelled.start
  have hOther : some sign ≠ some 'n' := fun h => hNull (hName (Option.some.inj h))
  refine takes_of_look sign hOpens ?_
  simp only
  exact hInner.map some

theorem Local.optional (h : d.Local) : d.optional.Local := by
  intro depth cs hSpelled
  by_cases hNull : cs = "null".toList
  · rw [hNull]
    have hName : (do skip; literal "ull".toList; yield none : Reader (Option α)).Yields "null".toList
        (some none) := fun _ _ _ => ⟨_, rfl⟩
    exact (takes_of_look 'n' rfl hName).spans
  · exact (h.takes_optional hSpelled hNull depth).spans

/-- A list is decoded item by item. -/
theorem Local.takes_list (h : d.Local) {items : List Item} (hItems : ∀ i ∈ items, WellFormed i.body)
    (inside : Blanks) (depth : Nat) : (d.list.text (depth + 1)).Takes (arrayChars items inside)
      (items.mapM fun i => (d.text depth).made i.body) := by
  have hOpens : ∀ i ∈ items, ∃ sign more, i.body = sign :: more ∧ opensValue sign = true :=
    fun i hi => (hItems i hi).opens
  have hList := yields_array inside hOpens (fun i hi => h depth (hItems i hi)) id
  rw [Option.map_id] at hList
  exact takes_of_look '[' rfl hList

theorem Local.list (h : d.Local) : d.list.Local := by
  intro depth cs hSpelled
  obtain ⟨_, hSpelled⟩ := hSpelled
  obtain ⟨sign, more, hChars, hOpens, _, _, hArray, _⟩ := hSpelled.start
  by_cases hSign : sign = '['
  · obtain ⟨items, inside, rfl, hItems⟩ := hArray hSign
    cases depth with
    | zero => exact (takes_none_of_look '[' rfl fun _ => rfl).spans
    | succ depth => exact (h.takes_list hItems inside depth).spans
  · rw [hChars]
    refine (takes_none_of_look sign hOpens fun c => ?_).spans
    simp only
    exact result?_mismatch _ c

/-- What is made of a value that can be read alone. -/
theorem Streams.made_eq (h : d.Streams) {depth : Nat} {cs : List Char} {v : Value}
    (hValue : (value depth).made cs = some v) : (d.text depth).made cs = d.buffered v := by
  obtain ⟨⟨_, next⟩, hRead, rfl⟩ := Option.map_eq_some_iff.mp hValue
  rw [Reader.made, h (Reading.result?_eq_some.mp hRead), Option.map_map]
  exact Option.map_id'

end Decoder

namespace Reader

variable {σ α : Type}

/-- What is built of the parts, once they are read and closed. -/
theorem Yields.built {body : Reader σ} {close : Reader Unit} {cs : List Char} {made : Option σ}
    (h : (closing body close).Yields cs made) (build : σ → Except Cause α) :
    (Reader.placed (closing (do ofExcept (build (← body))) close)).Yields cs
      (made.bind fun t => (build t).toOption) := by
  intro rest p hEnds
  obtain ⟨q, hRead⟩ := h rest p hEnds
  refine ⟨q, ?_⟩
  have hSwap : (Reader.placed (closing (do ofExcept (build (← body))) close)
      ⟨Text.encoded cs ++ rest, p⟩).result? = (closing body close ⟨Text.encoded cs ++ rest, p⟩).result?.bind
        fun closed => (build closed.1).toOption.map fun a => (a, closed.2) := by
    rw [result?_built, result?_closing]
    cases (body ⟨Text.encoded cs ++ rest, p⟩).result? with
    | none => rfl
    | some read =>
        simp only [Option.bind_some]
        cases (close read.2).result? with
        | none => cases build read.1 <;> rfl
        | some closed =>
            rw [Option.map_some, Option.bind_some]
            cases build read.1 <;> rfl
  rw [hSwap, hRead]
  cases made with
  | none => rfl
  | some t => cases build t <;> rfl

end Reader

namespace RecordForm

variable {σ α : Type} (form : RecordForm σ α)

/-- What a member adds to a record, by what is made of the characters of its value. -/
def takeMember (depth : Nat) (key : String) (m : Member) (s : σ) : Option σ :=
  match form.field? key with
  | none => some s
  | some f => if f.isSet s then none else ((f.filled.text depth).made m.item.body).map fun put => put s

variable {form}

section Places

variable {β : Type} {key name : String} {aliases : List String} {mayEnd : Bool} {d : Decoder β}
  {get : σ → Option β} {put : β → σ → σ}
  (hField : form.field? key = some (.of name aliases mayEnd d get put)) (depth : Nat) (m : Member)
include hField

theorem takeMember_of (s : σ) : form.takeMember depth key m s =
    if (get s).isSome then none else ((d.text depth).made m.item.body).map fun b => put b s := by
  have hPut : ((d.map put).text depth).made m.item.body = ((d.text depth).made m.item.body).map put :=
    made_map (d.text depth) m.item.body put
  simp only [takeMember, hField, Field.of, hPut, Option.map_map]
  rfl

/-- What a member adds is the same to two records that differ elsewhere. -/
theorem takeMember_frame {s t : σ} {change : σ → σ} (hGet : get s = get t)
    (hPut : ∀ b, put b s = change (put b t)) :
    form.takeMember depth key m s = (form.takeMember depth key m t).map change := by
  rw [takeMember_of hField, takeMember_of hField, hGet]
  split
  · rfl
  · rw [Option.map_map]
    exact Option.map_congr fun b _ => hPut b

end Places

variable (hFields : ∀ f ∈ form.fields, f.filled.Local)
include hFields

theorem yields_readMember {m : Member} (hSpelled : WellFormed m.item.body) (depth : Nat) (key : String) (s : σ) :
    (form.readMember depth key s).Yields m.valued (form.takeMember depth key m s) := by
  unfold readMember takeMember
  cases hField : form.field? key with
  | none =>
      simp only
      exact yields_valued ((skipValue_spelled hSpelled).map fun _ => s)
  | some f =>
      have hFilled := hFields f (List.mem_of_find?_eq_some hField) depth hSpelled
      simp only
      split
      · exact yields_none fun _ => rfl
      · exact yields_valued (hFilled.map fun put => put s)

/-- A record is decoded member by member. -/
theorem takes_object {members : List Member} (hMembers : ∀ m ∈ members, WellFormed m.item.body) (inside : Blanks)
    (depth : Nat) : (form.decoder.text (depth + 1)).Takes (objectChars members inside)
      ((members.foldlM (underKey (form.takeMember depth)) form.empty).bind fun s => (form.build s).toOption) := by
  have hStep : ∀ m ∈ members, ∀ key s, (form.readMember depth key s).Yields m.valued
      (form.takeMember depth key m s) := fun m hm key s => yields_readMember hFields (hMembers m hm) depth key s
  exact takes_of_look '\x7b' rfl
    (yields_skip '\x7b' rfl ((yields_members inside hStep form.empty).built form.build))

omit hFields in
theorem closeArray_items (gap : Blanks) (first : Bool) {items : List Item} (inside : Blanks)
    (hOpens : ∀ i ∈ items, ∃ sign more, i.body = sign :: more ∧ opensValue sign = true) (rest : List UInt8)
    (p : Position) : ∃ q,
    (closeArray ⟨Text.encoded (gap.chars ++ itemsChars first items inside) ++ rest, p⟩).result? =
      if items.isEmpty then some ((), ⟨rest, q⟩) else none := by
  cases items with
  | nil =>
      obtain ⟨q, hEnd⟩ := nextItem_nil gap first inside rest p
      obtain ⟨_, hNext⟩ := nextItem_false hEnd
      refine ⟨q.after 0x5D, ?_⟩
      rw [closeArray, ← lookPastBlanks_pastBlanks, ← hNext]
      exact congrArg Reading.result? (closeArray_cons rest q)
  | cons i items =>
      obtain ⟨sign, more, hBody, hSign⟩ := hOpens i List.mem_cons_self
      obtain ⟨start, hNext⟩ := nextItem_cons gap first inside rest p items hBody hSign
      exact ⟨p, closeArray_left hNext⟩

/-- The fields take the items one after the other, and no item may be left. -/
theorem yields_readItems {items : List Item} (hItems : ∀ i ∈ items, WellFormed i.body) (depth : Nat)
    (fields : List (Field σ)) (hSome : ∀ f ∈ fields, f ∈ form.fields) (gap : Blanks) (first : Bool)
    (inside : Blanks) (index : Nat) (s : σ) : ∃ made,
    (closing (form.readItems depth index first fields s) closeArray).Yields
      (gap.chars ++ itemsChars first items inside) made := by
  have hOpens : ∀ i ∈ items, ∃ sign more, i.body = sign :: more ∧ opensValue sign = true :=
    fun i hi => (hItems i hi).opens
  induction fields generalizing items gap first inside index s with
  | nil =>
      refine ⟨if items.isEmpty then some s else none, fun rest p _ => ?_⟩
      obtain ⟨q, hClose⟩ := closeArray_items gap first inside hOpens rest p
      refine ⟨q, ?_⟩
      rw [result?_closing, readItems]
      simp only [result?_yield, Option.bind_some, hClose]
      split <;> rfl
  | cons f fields ih =>
      have hRest : ∀ g ∈ fields, g ∈ form.fields := fun g hg => hSome g (List.mem_cons_of_mem _ hg)
      cases items with
      | nil =>
          by_cases hMayEnd : f.mayEnd = true
          · obtain ⟨made, hMade⟩ := ih (List.forall_mem_nil _) hRest .none first .none (index + 1) s
              (List.forall_mem_nil _)
            refine ⟨made, fun rest p hEnds => ?_⟩
            obtain ⟨start, hEnd⟩ := nextItem_nil gap first inside rest p
            obtain ⟨q, hRead⟩ := hMade rest start hEnds
            refine ⟨q, ?_⟩
            rw [result?_closing] at hRead ⊢
            rw [readItems, bind_of_done _ hEnd, if_neg Bool.false_ne_true, if_pos hMayEnd]
            exact hRead
          · refine ⟨none, fun rest p _ => ⟨p, ?_⟩⟩
            obtain ⟨start, hEnd⟩ := nextItem_nil gap first inside rest p
            rw [result?_closing, readItems, bind_of_done _ hEnd, if_neg Bool.false_ne_true, if_neg hMayEnd]
            rfl
      | cons i items =>
          have hFilled := hFields f (hSome f List.mem_cons_self) depth (hItems i List.mem_cons_self)
          obtain ⟨sign, more, hBody, hSign⟩ := hOpens i List.mem_cons_self
          cases hPut : (f.filled.text depth).made i.body with
          | none =>
              refine ⟨none, fun rest p _ => ⟨p, ?_⟩⟩
              obtain ⟨start, hNext⟩ := nextItem_cons gap first inside rest p items hBody hSign
              obtain ⟨behind, hRead⟩ := hFilled.yields _ start (endsValue_items inside rest i.behind items)
              rw [hPut] at hRead
              rw [result?_closing, readItems, bind_of_done _ hNext, if_pos rfl, result?_bind, hRead]
              rfl
          | some put =>
              obtain ⟨made, hMade⟩ := ih (fun j hj => hItems j (List.mem_cons_of_mem _ hj)) hRest i.behind false
                inside (index + 1) (put s) (fun j hj => hOpens j (List.mem_cons_of_mem _ hj))
              refine ⟨made, fun rest p hEnds => ?_⟩
              obtain ⟨start, hNext⟩ := nextItem_cons gap first inside rest p items hBody hSign
              obtain ⟨behind, hFill⟩ := hFilled.yields _ start (endsValue_items inside rest i.behind items)
              obtain ⟨q, hRead⟩ := hMade rest behind hEnds
              refine ⟨q, ?_⟩
              rw [hPut] at hFill
              rw [result?_closing] at hRead ⊢
              rw [readItems, bind_of_done _ hNext, if_pos rfl,
                bind_of_done _ (Reading.result?_eq_some.mp hFill)]
              exact hRead

theorem local_decoder : form.decoder.Local := by
  intro depth cs hSpelled
  obtain ⟨_, hSpelled⟩ := hSpelled
  obtain ⟨sign, more, hChars, hOpens, _, _, hArray, hObject⟩ := hSpelled.start
  by_cases hSign : sign = '['
  · obtain ⟨items, inside, rfl, hItems⟩ := hArray hSign
    cases depth with
    | zero => exact (takes_none_of_look '[' rfl fun _ => rfl).spans
    | succ depth =>
        obtain ⟨made, hMade⟩ := yields_readItems hFields hItems depth form.fields (fun _ hf => hf) .none true
          inside 0 form.empty
        exact (takes_of_look '[' rfl (yields_skip '[' rfl (hMade.built form.build))).spans
  by_cases hBrace : sign = '\x7b'
  · obtain ⟨members, inside, rfl, hMembers⟩ := hObject hBrace
    cases depth with
    | zero => exact (takes_none_of_look '\x7b' rfl fun _ => rfl).spans
    | succ depth => exact (takes_object hFields hMembers inside depth).spans
  · rw [hChars]
    refine (takes_none_of_look sign hOpens fun c => ?_).spans
    simp only
    exact result?_mismatch _ c

end RecordForm

end AuditDesk.Json
