import AuditDesk.Proofs.Json.Passing

/-! The forms of values put to use. A loop over the parts of a container folds whatever its step makes of
each part; so a value is read from any form of it, and with any depth that its containers keep within. -/
namespace AuditDesk.Json

namespace Value

/-- At most so many containers of the value are open at once. -/
inductive Within : Nat → Value → Prop
  | null {depth : Nat} : Within depth .null
  | boolean {depth : Nat} (b : Bool) : Within depth (.boolean b)
  | number {depth : Nat} (n : Number) : Within depth (.number n)
  | string {depth : Nat} (s : String) : Within depth (.string s)
  | array {depth : Nat} {items : List Value} (h : ∀ v ∈ items, Within depth v) :
      Within (depth + 1) (.array items)
  | object {depth : Nat} {members : List (String × Value)} (h : ∀ m ∈ members, Within depth m.2) :
      Within (depth + 1) (.object members)

end Value

namespace Reader

section Folds

variable {σ : Type} {item : Reader Value} {c next : Cursor} {first : Bool}

/-- A loop over the items of an array folds what its step makes of each of them. -/
theorem result?_itemsFrom (step : σ → Reader σ) (take : σ → Value → Option σ) {items : List Value}
    (h : Listed item first c items next)
    (hStep : ∀ s start v behind, item start = .done v behind →
      (step s start).result? = (take s v).map fun t => (t, behind))
    {fuel : Nat} (hFuel : items.length < fuel) (s : σ) :
    (itemsFrom step fuel first s c).result? = (items.foldlM take s).map fun t => (t, next) := by
  induction h generalizing fuel s with
  | nil hEnd =>
      obtain ⟨fuel, rfl⟩ : ∃ n, fuel = n + 1 := ⟨fuel - 1, by omega⟩
      rw [itemsFrom, bind_of_done _ hEnd, if_neg Bool.false_ne_true]
      rfl
  | @cons first c start behind next v items hNext hItem more ih =>
      obtain ⟨fuel, rfl⟩ : ∃ n, fuel = n + 1 := ⟨fuel - 1, by omega⟩
      have hRest := ih (Nat.lt_of_succ_lt_succ hFuel)
      rw [itemsFrom, bind_of_done _ hNext, if_pos rfl, result?_bind, hStep s start v behind hItem,
        List.foldlM_cons]
      cases take s v with
      | none => rfl
      | some t => exact hRest t

/-- A loop over the members of an object folds what its step makes of each of them. -/
theorem result?_membersFrom (step : String → σ → Reader σ) (take : σ → String × Value → Option σ)
    {members : List (String × Value)} (h : Keyed item first c members next)
    (hStep : ∀ key s named valued v behind, colon named = .done () valued → item valued = .done v behind →
      (step key s named).result? = (take s (key, v)).map fun t => (t, behind))
    {fuel : Nat} (hFuel : members.length < fuel) (s : σ) :
    (membersFrom quoted step fuel first s c).result? = (members.foldlM take s).map fun t => (t, next) := by
  induction h generalizing fuel s with
  | nil hEnd =>
      obtain ⟨fuel, rfl⟩ : ∃ n, fuel = n + 1 := ⟨fuel - 1, by omega⟩
      rw [membersFrom, bind_of_done _ hEnd, if_neg Bool.false_ne_true]
      rfl
  | @cons first c start named valued behind next key v members hNext hKey hColon hItem more ih =>
      obtain ⟨fuel, rfl⟩ : ∃ n, fuel = n + 1 := ⟨fuel - 1, by omega⟩
      have hRest := ih (Nat.lt_of_succ_lt_succ hFuel)
      rw [membersFrom, bind_of_done _ hNext, if_pos rfl, bind_of_done _ hKey, result?_bind,
        hStep key s named valued v behind hColon hItem, List.foldlM_cons]
      cases take s (key, v) with
      | none => rfl
      | some t => exact hRest t

end Folds

section Values

variable {item other : Reader Value} {c next last : Cursor} {first : Bool}

/-- Collecting what is made of the items puts it in reverse order in front of what was there. -/
theorem foldlM_found {ι α : Type} (f : ι → Option α) (items : List ι) (found : List α) :
    (items.foldlM (fun found i => (f i).map (· :: found)) found) =
      (items.mapM f).map fun as => as.reverse ++ found := by
  induction items generalizing found with
  | nil => rfl
  | cons i items ih =>
      rw [List.foldlM_cons, List.mapM_cons]
      cases f i with
      | none => rfl
      | some a => exact (ih (a :: found)).trans (by cases items.mapM f <;> simp)

theorem foldlM_kept {α : Type} (as found : List α) :
    (as.foldlM (fun found a => some (a :: found)) found) = some (as.reverse ++ found) :=
  List.foldlM_pure.trans (congrArg some (by simp))

theorem arrayOf_listed {items : List Value} (hItems : Listed item true c.advance items next)
    (hFuel : items.length < c.advance.rest.length + 1) (hClose : closeArray next = .done () last) :
    arrayOf item c = .done (.array items) last := by
  have hStep : ∀ found start v behind, item start = .done v behind →
      (collect item found start).result? = some (v :: found, behind) := by
    intro found start v behind h
    rw [collect, bind_of_done _ h]
    rfl
  have hLoop := result?_itemsFrom (collect item) (fun found v => some (v :: found)) hItems hStep hFuel []
  rw [foldlM_kept, Option.map_some, Reading.result?_eq_some, List.append_nil] at hLoop
  have hBody : placed (closing (Reader.items (collect item) []) closeArray) c.advance =
      .done items.reverse last := placed_of_done (closing_of_done hLoop hClose)
  refine (bind_of_done _ hBody).trans ?_
  rw [List.reverse_reverse]
  rfl

theorem objectOf_keyed {members : List (String × Value)} (hMembers : Keyed item true c.advance members next)
    (hFuel : members.length < c.advance.rest.length + 1) (hClose : closeObject next = .done () last) :
    objectOf item c = .done (.object members) last := by
  have hStep : ∀ key found named valued v behind, colon named = .done () valued →
      item valued = .done v behind →
      (collectMember item key found named).result? = some ((key, v) :: found, behind) := by
    intro key found named valued v behind hColon h
    rw [collectMember, bind_of_done _ hColon, bind_of_done _ h]
    rfl
  have hLoop := result?_membersFrom (collectMember item) (fun found m => some (m :: found)) hMembers hStep
    hFuel []
  rw [foldlM_kept, Option.map_some, Reading.result?_eq_some, List.append_nil] at hLoop
  have hBody : placed (closing (Reader.members quoted (collectMember item) []) closeObject) c.advance =
      .done members.reverse last := placed_of_done (closing_of_done hLoop hClose)
  refine (bind_of_done _ hBody).trans ?_
  rw [List.reverse_reverse]
  rfl

/-- A value is read from each of its forms. -/
theorem value_of_form {depth : Nat} {v : Value} (h : Form depth c.pastBlanks v next) :
    value depth c = .done v next := by
  cases h with
  | @scalar first r _ _ hPeek hScalar hDone =>
      have hRead : ∀ inner?, valueOver inner? c = .done v next := by
        intro inner?
        refine (bind_of_done _ (lookPastBlanks_of_peek hPeek)).trans ?_
        simp only [hScalar]
        exact hDone
      cases depth with
      | zero => exact hRead none
      | succ depth => exact hRead (some (value depth))
  | array hDepth hPeek hItems hFuel hClose =>
      subst hDepth
      exact (bind_of_done _ (lookPastBlanks_of_peek hPeek)).trans (arrayOf_listed hItems hFuel hClose)
  | object hDepth hPeek hMembers hFuel hClose =>
      subst hDepth
      exact (bind_of_done _ (lookPastBlanks_of_peek hPeek)).trans (objectOf_keyed hMembers hFuel hClose)

theorem Listed.mono {items : List Value} (h : Listed item first c items next)
    (hItem : ∀ v ∈ items, ∀ start behind, item start = .done v behind → other start = .done v behind) :
    Listed other first c items next := by
  induction h with
  | nil hEnd => exact .nil hEnd
  | @cons first c start behind next v items hNext hRead more ih =>
      have hFirst := hItem v List.mem_cons_self start behind hRead
      exact .cons hNext hFirst (ih fun w hw => hItem w (List.mem_cons_of_mem _ hw))

theorem Keyed.mono {members : List (String × Value)} (h : Keyed item first c members next)
    (hItem : ∀ m ∈ members, ∀ start behind, item start = .done m.2 behind → other start = .done m.2 behind) :
    Keyed other first c members next := by
  induction h with
  | nil hEnd => exact .nil hEnd
  | @cons first c start named valued behind next key v members hNext hKey hColon hRead more ih =>
      have hFirst := hItem (key, v) List.mem_cons_self valued behind hRead
      exact .cons hNext hKey hColon hFirst (ih fun m hm => hItem m (List.mem_cons_of_mem _ hm))

/-- The depth at which a value is read makes no difference as long as the value keeps within it. -/
theorem value_within {depth limit : Nat} {v : Value} (h : value depth c = .done v next)
    (hWithin : v.Within limit) : value limit c = .done v next := by
  induction hWithin generalizing depth c next with
  | array _ ih =>
      cases form_of_value h with
      | scalar hPeek hScalar hDone => exact value_of_form (.scalar hPeek hScalar hDone)
      | array _ hPeek hItems hFuel hClose =>
          have hInner := hItems.mono fun v hv _ _ hRead => ih v hv hRead
          exact value_of_form (.array rfl hPeek hInner hFuel hClose)
  | object _ ih =>
      cases form_of_value h with
      | scalar hPeek hScalar hDone => exact value_of_form (.scalar hPeek hScalar hDone)
      | object _ hPeek hMembers hFuel hClose =>
          have hInner := hMembers.mono fun m hm _ _ hRead => ih m hm hRead
          exact value_of_form (.object rfl hPeek hInner hFuel hClose)
  | _ =>
      cases form_of_value h with
      | scalar hPeek hScalar hDone => exact value_of_form (.scalar hPeek hScalar hDone)

end Values

section Texts

variable {α : Type} {r : Reader α} {text : List UInt8}

/-- A whole text is read by reading from it up to white space and the end. -/
theorem toOption_whole (r : Reader α) (text : List UInt8) :
    (whole r text).toOption = (r (.start text)).result?.bind fun read =>
      if read.2.pastBlanks.peek? = none then some read.1 else none := by
  cases hFirst : r (.start text) with
  | failed failure position =>
      have hBind : ∀ f : α → Reader α, (r >>= f) (.start text) = .failed failure position := by
        intro f
        change andThen r f _ = _
        simp only [andThen, hFirst]
      simp only [whole, hBind]
      rfl
  | done a next =>
      have hLook : lookPastBlanks next = .done next.pastBlanks.peek? next.pastBlanks := rfl
      simp only [whole, bind_of_done _ hFirst, bind_of_done _ hLook]
      cases hPeek : next.pastBlanks.peek? <;> simp [hPeek] <;> rfl

theorem toOption_eq_some {ε : Type} {a : α} {outcome : Except ε α} : outcome.toOption = some a ↔ outcome = .ok a := by
  cases outcome <;> simp [Except.toOption]

theorem whole_eq_ok {a : α} : whole r text = .ok a ↔
    ∃ next, r (.start text) = .done a next ∧ next.pastBlanks.peek? = none := by
  rw [← toOption_eq_some, toOption_whole]
  constructor
  · intro h
    obtain ⟨⟨b, next⟩, hDone, hEnd⟩ := Option.bind_eq_some_iff.mp h
    obtain ⟨hPeek, hSame⟩ : next.pastBlanks.peek? = none ∧ b = a := by simpa using hEnd
    exact ⟨next, hSame ▸ Reading.result?_eq_some.mp hDone, hPeek⟩
  · rintro ⟨next, hDone, hPeek⟩
    rw [hDone, Reading.result?_done, Option.bind_some, if_pos hPeek]

theorem whole_value_within {depth limit : Nat} {v : Value} (h : whole (value depth) text = .ok v)
    (hWithin : v.Within limit) : whole (value limit) text = .ok v := by
  obtain ⟨next, hDone, hEnd⟩ := whole_eq_ok.mp h
  exact whole_eq_ok.mpr ⟨next, value_within hDone hWithin, hEnd⟩

end Texts

end Reader

end AuditDesk.Json
