import Mathlib.Data.List.Pairwise
import AuditDesk.Json.Decoder

/-! Settling a value before it is decoded. Settling puts the members of an object in the order of their
keys, so as long as no key is repeated it loses nothing, and a record filled by members in another order
is the same record, since filling one of its fields has no effect on another. -/
namespace AuditDesk.Json

namespace Value

/-- No object has two members with the same key. -/
inductive Distinct : Value → Prop
  | null : Distinct .null
  | boolean (b : Bool) : Distinct (.boolean b)
  | number (n : Number) : Distinct (.number n)
  | string (s : String) : Distinct (.string s)
  | array {items : List Value} (h : ∀ v ∈ items, Distinct v) : Distinct (.array items)
  | object {members : List (String × Value)} (hKeys : (members.map Prod.fst).Nodup)
      (h : ∀ m ∈ members, Distinct m.2) : Distinct (.object members)

section Members

/-- Members in the order of their keys, each key once. -/
def Ordered (members : List (String × Value)) : Prop := members.Pairwise fun m n => m.1 < n.1

theorem insertMember_perm {key : String} {v : Value} {sorted : List (String × Value)}
    (hNew : key ∉ sorted.map Prod.fst) : (insertMember key v sorted).Perm ((key, v) :: sorted) := by
  induction sorted with
  | nil => rfl
  | cons member sorted ih =>
      obtain ⟨hHead, hRest⟩ : key ≠ member.1 ∧ key ∉ sorted.map Prod.fst := by simpa using hNew
      rw [insertMember]
      by_cases hBefore : key < member.1
      · rw [if_pos hBefore]
      · rw [if_neg hBefore, if_neg hHead]
        exact ((ih hRest).cons member).trans (.swap _ _ _)

theorem mem_insertMember {key : String} {v : Value} {sorted : List (String × Value)} {m : String × Value}
    (h : m ∈ insertMember key v sorted) : m = (key, v) ∨ m ∈ sorted := by
  induction sorted with
  | nil => exact .inl (List.mem_singleton.mp h)
  | cons member sorted ih =>
      rw [insertMember] at h
      split at h
      · exact List.mem_cons.mp h
      split at h
      · rcases List.mem_cons.mp h with rfl | hRest
        · exact .inl rfl
        · exact .inr (List.mem_cons_of_mem _ hRest)
      · rcases List.mem_cons.mp h with rfl | hRest
        · exact .inr List.mem_cons_self
        · exact (ih hRest).imp_right (List.mem_cons_of_mem _)

theorem insertMember_ordered (key : String) (v : Value) {sorted : List (String × Value)} (h : Ordered sorted) :
    Ordered (insertMember key v sorted) := by
  induction sorted with
  | nil => exact List.pairwise_singleton _ _
  | cons member sorted ih =>
      obtain ⟨hHead, hRest⟩ := List.pairwise_cons.mp h
      rw [insertMember]
      by_cases hBefore : key < member.1
      · rw [if_pos hBefore]
        refine List.pairwise_cons.mpr ⟨fun m hm => ?_, h⟩
        rcases List.mem_cons.mp hm with rfl | hm
        · exact hBefore
        · exact String.lt_trans hBefore (hHead m hm)
      · rw [if_neg hBefore]
        by_cases hSame : key = member.1
        · rw [if_pos hSame]
          exact List.pairwise_cons.mpr ⟨fun m hm => hSame ▸ hHead m hm, hRest⟩
        · rw [if_neg hSame]
          refine List.pairwise_cons.mpr ⟨fun m hm => ?_, ih hRest⟩
          rcases mem_insertMember hm with rfl | hm
          · exact Std.lt_of_le_of_ne hBefore (Ne.symm hSame)
          · exact hHead m hm

/-- A member whose key comes after all others goes to the end. -/
theorem insertMember_last {key : String} {v : Value} {sorted : List (String × Value)}
    (h : ∀ m ∈ sorted, m.1 < key) : insertMember key v sorted = sorted ++ [(key, v)] := by
  induction sorted with
  | nil => rfl
  | cons member sorted ih =>
      have hHead := h member List.mem_cons_self
      have hNotBefore : ¬key < member.1 := fun hBefore =>
        String.lt_irrefl _ (String.lt_trans hHead hBefore)
      have hOther : key ≠ member.1 := fun hSame => String.lt_irrefl key (hSame ▸ hHead)
      rw [insertMember, if_neg hNotBefore, if_neg hOther, ih fun m hm => h m (List.mem_cons_of_mem _ hm)]
      rfl

theorem settleMembers_perm {sorted members : List (String × Value)}
    (hKeys : ((sorted ++ members).map Prod.fst).Nodup) :
    (settleMembers sorted members).Perm (sorted ++ members.map fun m => (m.1, m.2.settle)) := by
  induction members generalizing sorted with
  | nil => simp [settleMembers]
  | cons member members ih =>
      obtain ⟨key, v⟩ := member
      have hMiddle : (sorted ++ (key, v) :: members).Perm ((key, v) :: (sorted ++ members)) := List.perm_middle
      obtain ⟨hNew, hRest⟩ := List.nodup_cons.mp ((hMiddle.map Prod.fst).nodup_iff.mp hKeys)
      have hInsert : (insertMember key v.settle sorted).Perm ((key, v.settle) :: sorted) := by
        apply insertMember_perm
        intro hMem
        exact hNew (by simp_all)
      have hKept : ((insertMember key v.settle sorted ++ members).map Prod.fst).Nodup := by
        have hKeysPerm := (hInsert.append_right members).map Prod.fst
        exact hKeysPerm.nodup_iff.mpr (List.nodup_cons.mpr ⟨hNew, hRest⟩)
      rw [settleMembers, List.map_cons]
      exact ((ih hKept).trans (hInsert.append_right _)).trans List.perm_middle.symm

theorem settleMembers_nil_perm {members : List (String × Value)} (hKeys : (members.map Prod.fst).Nodup) :
    (settleMembers [] members).Perm (members.map fun m => (m.1, m.2.settle)) :=
  settleMembers_perm hKeys

theorem settleMembers_ordered {sorted : List (String × Value)} (h : Ordered sorted)
    (members : List (String × Value)) : Ordered (settleMembers sorted members) := by
  induction members generalizing sorted with
  | nil => simpa [settleMembers] using h
  | cons member members ih =>
      rw [settleMembers]
      exact ih (insertMember_ordered _ _ h)

/-- Members in order, of values that are settled, are left as they are. -/
theorem settleMembers_eq_append {sorted members : List (String × Value)} (h : Ordered (sorted ++ members))
    (hSettled : ∀ m ∈ members, m.2.settle = m.2) : settleMembers sorted members = sorted ++ members := by
  induction members generalizing sorted with
  | nil => simp [settleMembers]
  | cons member members ih =>
      obtain ⟨key, v⟩ := member
      have hBefore : ∀ m ∈ sorted, m.1 < key := fun m hm =>
        (List.pairwise_append.mp h).2.2 m hm (key, v) List.mem_cons_self
      rw [settleMembers, hSettled (key, v) List.mem_cons_self, insertMember_last hBefore]
      have hSame : sorted ++ (key, v) :: members = (sorted ++ [(key, v)]) ++ members := by simp
      rw [hSame] at h ⊢
      exact ih h fun m hm => hSettled m (List.mem_cons_of_mem _ hm)

mutual

/-- A settled value stays as it is. -/
theorem settle_settle : (v : Value) → v.settle.settle = v.settle
  | .array items => by
      rw [settle, settle, settleItems_settleItems items]
  | .object members => by
      have hOrdered : Ordered (settleMembers [] members) := settleMembers_ordered .nil members
      rw [settle, settle, settleMembers_eq_append hOrdered (settleMembers_settled members (List.forall_mem_nil _))]
      rfl
  | .null => rfl
  | .boolean _ => rfl
  | .number _ => rfl
  | .string _ => rfl

theorem settleItems_settleItems : (items : List Value) →
    settleItems (settleItems items) = settleItems items
  | [] => rfl
  | v :: items => by
      rw [settleItems, settleItems, settle_settle v, settleItems_settleItems items]

theorem settleMembers_settled : (members : List (String × Value)) → ∀ {sorted : List (String × Value)},
    (∀ m ∈ sorted, m.2.settle = m.2) → ∀ m ∈ settleMembers sorted members, m.2.settle = m.2
  | [], _, h => by
      rw [settleMembers]
      exact h
  | (key, v) :: members, _, h => by
      rw [settleMembers]
      apply settleMembers_settled members
      intro m hm
      rcases mem_insertMember hm with rfl | hm
      · exact settle_settle v
      · exact h m hm

end

theorem Ordered.nodup {members : List (String × Value)} (h : Ordered members) :
    (members.map Prod.fst).Nodup := by
  apply List.pairwise_map.mpr
  apply h.imp
  intro m n hBefore hSame
  exact String.lt_irrefl n.1 (hSame ▸ hBefore)

mutual

/-- A settled value has every key once. -/
theorem distinct_settle : (v : Value) → v.settle.Distinct
  | .array items => by
      rw [settle]
      exact .array (distinct_settleItems items)
  | .object members => by
      have hOrdered : Ordered (settleMembers [] members) := settleMembers_ordered .nil members
      rw [settle]
      exact .object hOrdered.nodup (distinct_settleMembers members (List.forall_mem_nil _))
  | .null => .null
  | .boolean b => .boolean b
  | .number n => .number n
  | .string s => .string s

theorem distinct_settleItems : (items : List Value) → ∀ v ∈ settleItems items, v.Distinct
  | [] => List.forall_mem_nil _
  | v :: items => by
      rw [settleItems]
      exact List.forall_mem_cons.mpr ⟨distinct_settle v, distinct_settleItems items⟩

theorem distinct_settleMembers : (members : List (String × Value)) → ∀ {sorted : List (String × Value)},
    (∀ m ∈ sorted, m.2.Distinct) → ∀ m ∈ settleMembers sorted members, m.2.Distinct
  | [], _, h => by
      rw [settleMembers]
      exact h
  | (key, v) :: members, _, h => by
      rw [settleMembers]
      apply distinct_settleMembers members
      intro m hm
      rcases mem_insertMember hm with rfl | hm
      · exact distinct_settle v
      · exact h m hm

end

section Lookup

theorem lookup_insertMember (key other : String) (v : Value) (sorted : List (String × Value)) :
    (insertMember other v sorted).lookup key = if key = other then some v else sorted.lookup key := by
  have hConsed : ∀ (k : String) (w : Value) rest,
      ((k, w) :: rest).lookup key = if key = k then some w else rest.lookup key := by
    intro k w rest
    rw [List.lookup_cons]
    by_cases h : key = k
    · simp [h]
    · simp [h, beq_eq_false_iff_ne.mpr h]
  induction sorted with
  | nil => exact hConsed other v []
  | cons member sorted ih =>
      obtain ⟨first, w⟩ := member
      rw [insertMember]
      by_cases hBefore : other < first
      · rw [if_pos hBefore, hConsed]
      rw [if_neg hBefore]
      by_cases hFirst : other = first
      · subst hFirst
        rw [if_pos rfl, hConsed, hConsed]
        split <;> rfl
      rw [if_neg hFirst, hConsed, hConsed, ih]
      by_cases hKey : key = first
      · rw [if_pos hKey, if_pos hKey, if_neg fun hOther => hFirst (hOther.symm.trans hKey)]
      · rw [if_neg hKey, if_neg hKey]

/-- Of several members with one key the last is kept. -/
theorem lookup_settleMembers (key : String) (sorted members : List (String × Value)) :
    (settleMembers sorted members).lookup key =
      ((members.reverse.lookup key).map settle).or (sorted.lookup key) := by
  induction members generalizing sorted with
  | nil => simp [settleMembers]
  | cons member members ih =>
      obtain ⟨other, v⟩ := member
      rw [settleMembers, ih, lookup_insertMember, List.reverse_cons, List.lookup_append, List.lookup_cons]
      by_cases h : key = other
      · subst h
        cases members.reverse.lookup key <;> simp
      · have hKey : (key == other) = false := beq_eq_false_iff_ne.mpr h
        cases members.reverse.lookup key <;> simp [h, hKey]

end Lookup

end Members

end Value

/-- The decoder makes of a value that was read and settled before what it makes of the value itself. -/
def Decoder.Settles {α : Type} (d : Decoder α) : Prop :=
  ∀ ⦃v : Value⦄, v.Distinct → (d.kept v.settle).toOption = d.buffered v

section Outcomes

variable {α β σ : Type}

theorem toOption_bind (outcome : Except Cause α) (f : α → Except Cause β) :
    (outcome >>= f).toOption = outcome.toOption.bind fun a => (f a).toOption := by
  cases outcome <;> rfl

theorem toOption_foldlM (f : σ → α → Except Cause σ) (as : List α) (s : σ) :
    (as.foldlM f s).toOption = as.foldlM (fun s a => (f s a).toOption) s := by
  induction as generalizing s with
  | nil => rfl
  | cons a as ih =>
      rw [List.foldlM_cons, List.foldlM_cons, toOption_bind]
      exact Option.bind_congr fun t _ => ih t

/-- A fold whose steps commute does not depend on the order of the list. -/
theorem foldlM_perm {f : σ → α → Option σ} (hComm : ∀ s a b, (f s a).bind (f · b) = (f s b).bind (f · a))
    {as bs : List α} (h : as.Perm bs) (s : σ) : as.foldlM f s = bs.foldlM f s := by
  induction h generalizing s with
  | nil => rfl
  | cons a _ ih =>
      rw [List.foldlM_cons, List.foldlM_cons]
      exact Option.bind_congr fun t _ => ih t
  | swap a b as =>
      simp only [List.foldlM_cons, Option.bind_eq_bind, ← Option.bind_assoc]
      exact congrArg (Option.bind · fun t => as.foldlM f t) (hComm s b a)
  | trans _ _ ihFirst ihSecond => exact (ihFirst s).trans (ihSecond s)

end Outcomes

namespace Decoder

variable {α β : Type} {d : Decoder α}

theorem Settles.map (h : d.Settles) (f : α → β) : (d.map f).Settles := by
  intro v hDistinct
  change (d.kept v.settle >>= fun a => pure (f a)).toOption = (d.buffered v).map f
  rw [toOption_bind, h hDistinct]
  cases d.buffered v <;> rfl

theorem settles_any : Decoder.any.Settles := fun _ _ => rfl

theorem settles_string : Decoder.string.Settles := by
  intro v _
  cases v <;> rfl

theorem Settles.optional (h : d.Settles) : d.optional.Settles := by
  intro v hDistinct
  have hSome : ∀ w : Value, (d.kept w >>= fun a => pure (some a)).toOption = (d.kept w).toOption.map some := by
    intro w
    cases d.kept w <;> rfl
  cases v with
  | null => rfl
  | _ => exact (hSome _).trans (congrArg (Option.map some) (h hDistinct))

theorem Settles.list (h : d.Settles) : d.list.Settles := by
  intro v hDistinct
  cases hDistinct with
  | @array items hItems =>
      change ((Value.settleItems items).mapM d.kept).toOption = items.mapM d.buffered
      induction items with
      | nil => rfl
      | cons v items ih =>
          have hFirst := h (hItems v List.mem_cons_self)
          have hRest := ih fun w hw => hItems w (List.mem_cons_of_mem _ hw)
          rw [Value.settleItems, List.mapM_cons, List.mapM_cons, toOption_bind, hFirst]
          refine Option.bind_congr fun a _ => ?_
          rw [toOption_bind, hRest]
          rfl
  | _ => rfl

theorem settles_tried (name : String) {choose : Value → Option α}
    (h : ∀ v : Value, v.Distinct → choose v.settle = choose v) : (Decoder.tried name choose).Settles := by
  intro v hDistinct
  simp only [Decoder.tried, h v hDistinct]
  cases choose v <;> rfl

theorem settles_choice (choices : List (String × α)) : (Decoder.choice choices).Settles := by
  intro v hDistinct
  cases hDistinct with
  | @object members hKeys _ =>
      have hLength := (Value.settleMembers_nil_perm hKeys).length_eq
      match members with
      | [] => rfl
      | [(key, w)] =>
          cases w with
          | null =>
              change (chosen choices key >>= fun a => .ok a).toOption = (chosen choices key).toOption
              cases chosen choices key <;> rfl
          | _ =>
              change (chosen choices key >>= fun a => .error _).toOption = none
              cases chosen choices key <;> rfl
      | (key, w) :: second :: members =>
          rw [Value.settle]
          generalize Value.settleMembers [] ((key, w) :: second :: members) = settled at hLength ⊢
          match settled with
          | (_, _) :: _ :: _ => cases w <;> rfl
  | array _ => rfl
  | string s => rfl
  | _ => rfl

end Decoder

namespace Field

variable {σ : Type}

/-- Whatever is put into a field, the field counts as set. -/
def Marks (f : Field σ) : Prop := ∀ v put s, f.filled.kept v = .ok put → f.isSet (put s) = true

/-- Two fields that can be filled in either order. -/
def Independent (f g : Field σ) : Prop := ∀ v w put other, f.filled.kept v = .ok put →
  g.filled.kept w = .ok other → ∀ s, put (other s) = other (put s) ∧
    g.isSet (put s) = g.isSet s ∧ f.isSet (other s) = f.isSet s

instance : Std.Symm (Independent (σ := σ)) where
  symm f g h := by
    intro v w put other hPut hOther s
    obtain ⟨hSwap, hKeepsOther, hKeepsSelf⟩ := h w v other put hOther hPut s
    exact ⟨hSwap.symm, hKeepsSelf, hKeepsOther⟩

section Places

variable {β γ : Type} {name other : String} {aliases others : List String} {mayEnd endsToo : Bool}
  {d : Decoder β} {e : Decoder γ} {get : σ → Option β} {put : β → σ → σ} {find : σ → Option γ}
  {place : γ → σ → σ}

theorem map_kept_eq_ok {f : β → γ} {v : Value} {c : γ} (h : (d.map f).kept v = .ok c) : ∃ b, c = f b := by
  change (d.kept v >>= fun b => pure (f b)) = .ok c at h
  cases hKept : d.kept v with
  | error cause =>
      rw [hKept] at h
      cases h
  | ok b =>
      rw [hKept] at h
      cases h
      exact ⟨b, rfl⟩

theorem marks_of (h : ∀ b s, (get (put b s)).isSome = true) : (Field.of name aliases mayEnd d get put).Marks := by
  intro v filled s hKept
  obtain ⟨b, rfl⟩ := map_kept_eq_ok hKept
  exact h b s

theorem independent_of (hSwap : ∀ b c s, put b (place c s) = place c (put b s))
    (hOther : ∀ b s, find (put b s) = find s) (hSelf : ∀ c s, get (place c s) = get s) :
    (Field.of name aliases mayEnd d get put).Independent (Field.of other others endsToo e find place) := by
  intro v w filled placed hFilled hPlaced s
  obtain ⟨b, rfl⟩ := map_kept_eq_ok hFilled
  obtain ⟨c, rfl⟩ := map_kept_eq_ok hPlaced
  exact ⟨hSwap b c s, congrArg Option.isSome (hOther b s), congrArg Option.isSome (hSelf c s)⟩

end Places

end Field

namespace RecordForm

variable {σ α : Type} {form : RecordForm σ α}

/-- Each field of the record is a place of its own. -/
structure Lawful (form : RecordForm σ α) : Prop where
  marks : ∀ f ∈ form.fields, f.Marks
  independent : form.fields.Pairwise Field.Independent

section Members

theorem toOption_keepMember {f : Field σ} {m : String × Value} (hField : form.field? m.1 = some f) (s : σ) :
    (form.keepMember s m).toOption =
      if f.isSet s then none else (f.filled.kept m.2).toOption.map fun put => put s := by
  simp only [keepMember, hField]
  split
  · rfl
  · cases f.filled.kept m.2 <;> rfl

/-- A field takes only one value. -/
theorem keepMember_twice (h : form.Lawful) {f : Field σ} {m n : String × Value} (hFirst : form.field? m.1 = some f)
    (hSecond : form.field? n.1 = some f) (s : σ) :
    ((form.keepMember s m).toOption.bind fun t => (form.keepMember t n).toOption) = none := by
  rw [toOption_keepMember hFirst]
  split
  · rfl
  cases hPut : f.filled.kept m.2 with
  | error cause => rfl
  | ok put =>
      have hSet := h.marks f (List.mem_of_find?_eq_some hFirst) m.2 put s hPut
      change (form.keepMember (put s) n).toOption = none
      rw [toOption_keepMember hSecond, if_pos hSet]

theorem keepMember_comm (h : form.Lawful) (s : σ) (m n : String × Value) :
    ((form.keepMember s m).toOption.bind fun t => (form.keepMember t n).toOption) =
      (form.keepMember s n).toOption.bind fun t => (form.keepMember t m).toOption := by
  have hUnknown : ∀ {m : String × Value}, form.field? m.1 = none → ∀ s, form.keepMember s m = .ok s := by
    intro m hNone s
    simp only [keepMember, hNone]
  cases hFirst : form.field? m.1 with
  | none =>
      simp only [hUnknown hFirst]
      exact (Option.bind_fun_some _).symm
  | some f =>
      cases hSecond : form.field? n.1 with
      | none =>
          simp only [hUnknown hSecond]
          exact Option.bind_fun_some _
      | some g =>
          by_cases hSame : f = g
          · subst hSame
            rw [keepMember_twice h hFirst hSecond, keepMember_twice h hSecond hFirst]
          have hIndependent : f.Independent g :=
            h.independent.forall (List.mem_of_find?_eq_some hFirst) (List.mem_of_find?_eq_some hSecond) hSame
          simp only [toOption_keepMember hFirst, toOption_keepMember hSecond]
          cases hPut : f.filled.kept m.2 with
          | error cause =>
              cases f.isSet s <;> cases g.isSet s <;> cases g.filled.kept n.2 <;>
                simp [Except.toOption]
          | ok put =>
              cases hOther : g.filled.kept n.2 with
              | error cause => cases f.isSet s <;> cases g.isSet s <;> simp [Except.toOption]
              | ok other =>
                  obtain ⟨hSwap, hKeepsOther, hKeepsSelf⟩ := hIndependent m.2 n.2 put other hPut hOther s
                  cases hSet : f.isSet s <;> cases hOtherSet : g.isSet s <;>
                    simp [Except.toOption, hSwap, hKeepsOther, hKeepsSelf, hSet, hOtherSet]

theorem toOption_keepMember_settle (hFields : ∀ f ∈ form.fields, f.filled.Settles) (s : σ) (key : String)
    {v : Value} (hDistinct : v.Distinct) :
    (form.keepMember s (key, v.settle)).toOption = form.bufferMember s (key, v) := by
  cases hField : form.field? key with
  | none =>
      simp only [keepMember, bufferMember, hField]
      rfl
  | some f =>
      have hFill := hFields f (List.mem_of_find?_eq_some hField) hDistinct
      rw [toOption_keepMember (m := (key, v.settle)) hField, hFill]
      simp only [bufferMember, hField]
      cases f.filled.buffered v <;> rfl

theorem foldlM_bufferMember (hFields : ∀ f ∈ form.fields, f.filled.Settles) {members : List (String × Value)}
    (hMembers : ∀ m ∈ members, m.2.Distinct) (s : σ) :
    members.foldlM form.bufferMember s =
      (members.map fun m => (m.1, m.2.settle)).foldlM (fun s m => (form.keepMember s m).toOption) s := by
  rw [List.foldlM_map]
  induction members generalizing s with
  | nil => rfl
  | cons m members ih =>
      rw [List.foldlM_cons, List.foldlM_cons,
        toOption_keepMember_settle hFields s m.1 (hMembers m List.mem_cons_self)]
      exact Option.bind_congr fun t _ => ih (fun n hn => hMembers n (List.mem_cons_of_mem _ hn)) t

/-- The order of the members makes no difference to the record. -/
theorem foldlM_bufferMember_perm (h : form.Lawful) (hFields : ∀ f ∈ form.fields, f.filled.Settles)
    {members others : List (String × Value)} (hMembers : ∀ m ∈ members, m.2.Distinct)
    (hPerm : members.Perm others) (s : σ) :
    members.foldlM form.bufferMember s = others.foldlM form.bufferMember s := by
  have hOthers : ∀ m ∈ others, m.2.Distinct := fun m hm => hMembers m (hPerm.mem_iff.mpr hm)
  rw [foldlM_bufferMember hFields hMembers, foldlM_bufferMember hFields hOthers]
  exact foldlM_perm (keepMember_comm h) (hPerm.map _) s

theorem toOption_foldlM_settleMembers (h : form.Lawful) (hFields : ∀ f ∈ form.fields, f.filled.Settles)
    {members : List (String × Value)} (hKeys : (members.map Prod.fst).Nodup)
    (hMembers : ∀ m ∈ members, m.2.Distinct) (s : σ) :
    ((Value.settleMembers [] members).foldlM form.keepMember s).toOption =
      members.foldlM form.bufferMember s := by
  rw [toOption_foldlM, foldlM_perm (keepMember_comm h) (Value.settleMembers_nil_perm hKeys),
    foldlM_bufferMember hFields hMembers]

end Members

theorem toOption_keepItems (fields : List (Field σ)) (hFields : ∀ f ∈ fields, f.filled.Settles)
    {items : List Value} (hItems : ∀ v ∈ items, v.Distinct) (index : Nat) (s : σ) :
    (form.keepItems index fields (Value.settleItems items) s).toOption =
      (bufferItems fields items s).map fun filled => (filled.1, Value.settleItems filled.2) := by
  induction fields generalizing items index s with
  | nil => rfl
  | cons f fields ih =>
      have hRest : ∀ g ∈ fields, g.filled.Settles := fun g hg => hFields g (List.mem_cons_of_mem _ hg)
      cases items with
      | nil =>
          rw [Value.settleItems, keepItems, bufferItems]
          split
          · exact ih hRest (List.forall_mem_nil _) (index + 1) s
          · rfl
      | cons v items =>
          have hFill := hFields f List.mem_cons_self (hItems v List.mem_cons_self)
          rw [Value.settleItems, keepItems, bufferItems, toOption_bind, hFill]
          cases f.filled.buffered v with
          | none => rfl
          | some put => exact ih hRest (fun w hw => hItems w (List.mem_cons_of_mem _ hw)) (index + 1) (put s)

/-- A record is the same whether its members were settled first or not. -/
theorem settles_decoder (h : form.Lawful) (hFields : ∀ f ∈ form.fields, f.filled.Settles) :
    form.decoder.Settles := by
  intro v hDistinct
  cases hDistinct with
  | @object members hKeys hMembers =>
      change ((Value.settleMembers [] members).foldlM form.keepMember form.empty >>= form.build).toOption =
        form.buffer (.object members)
      rw [toOption_bind, toOption_foldlM_settleMembers h hFields hKeys hMembers, buffer]
      rfl
  | @array items hItems =>
      have hFilled : (form.keepItems 0 form.fields (Value.settleItems items) form.empty).toOption = _ :=
        toOption_keepItems form.fields hFields hItems 0 form.empty
      change (form.keep (.array (Value.settleItems items))).toOption = form.buffer (.array items)
      rw [keep, buffer, toOption_bind, hFilled]
      cases bufferItems form.fields items form.empty with
      | none => rfl
      | some filled =>
          obtain ⟨t, left⟩ := filled
          simp only [Option.map_some, Option.bind_some, Option.bind_eq_bind]
          cases form.build t with
          | error cause => cases left <;> rfl
          | ok a => cases left <;> rfl
  | _ => rfl

end RecordForm

end AuditDesk.Json
