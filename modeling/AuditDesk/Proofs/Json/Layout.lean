import AuditDesk.Proofs.Json.Meaning
import AuditDesk.Proofs.Json.Yields

/-! The loops over the parts of a spelled container. From one part to the next a loop goes over white space,
a comma and, in an object, a key with its colon; so it folds what its step makes of each value alone. -/
namespace AuditDesk.Json

open Text

namespace Spelling

section Parts

variable (first : Bool) (inside : Blanks)

theorem itemsChars_cons (i : Item) (items : List Item) : itemsChars first (i :: items) inside =
    (if first then [] else [',']) ++ (i.before.chars ++
      (i.body ++ (i.behind.chars ++ itemsChars false items inside))) := by
  simp [itemsChars, separated, Item.chars]

theorem membersChars_cons (m : Member) (members : List Member) : membersChars first (m :: members) inside =
    (if first then [] else [',']) ++ (m.before.chars ++ (quotation m.key ++
      (m.valued ++ (m.item.behind.chars ++ membersChars false members inside)))) := by
  simp [membersChars, separated, Member.chars]

/-- Every item takes at least one byte. -/
theorem length_items {items : List Item} (h : ∀ i ∈ items, i.body ≠ []) (rest : List UInt8) :
    items.length ≤ (encoded (itemsChars first items inside) ++ rest).length := by
  induction items generalizing first with
  | nil => exact Nat.zero_le _
  | cons i items ih =>
      have hRest := ih false fun j hj => h j (List.mem_cons_of_mem _ hj)
      obtain ⟨c, cs, hBody⟩ := List.exists_cons_of_ne_nil (h i List.mem_cons_self)
      have hByte := String.length_utf8EncodeChar c
      have hSome := Char.utf8Size_pos c
      simp only [itemsChars_cons, hBody, encoded_append, encoded_cons, List.length_append,
        List.length_cons] at hRest ⊢
      omega

theorem length_members (members : List Member) (rest : List UInt8) :
    members.length ≤ (encoded (membersChars first members inside) ++ rest).length := by
  induction members generalizing first with
  | nil => exact Nat.zero_le _
  | cons m members ih =>
      have hRest := ih false
      have hByte := String.length_utf8EncodeChar '"'
      have hSome := Char.utf8Size_pos '"'
      simp only [membersChars_cons, quotation, encoded_append, encoded_cons, List.length_append,
        List.length_cons] at hRest ⊢
      omega

end Parts

end Spelling

namespace Reader

open Spelling

section Ends

variable (inside : Blanks) (rest : List UInt8)

/-- A value in an array ends in front of the next one or of the closing bracket. -/
theorem endsValue_items (behind : Blanks) (items : List Item) :
    EndsValue (encoded (behind.chars ++ itemsChars false items inside) ++ rest) := by
  rw [encoded_append, List.append_assoc]
  apply endsValue_gap behind.blank
  cases items with
  | nil =>
      rw [itemsChars, List.map_nil, separated, List.nil_append, encoded_append, List.append_assoc]
      exact endsValue_gap inside.blank (endsValue_close (b := 0x5D) (by decide) rest)
  | cons i items => exact endsValue_close (b := 0x2C) (by decide) _

theorem endsValue_members (behind : Blanks) (members : List Member) :
    EndsValue (encoded (behind.chars ++ membersChars false members inside) ++ rest) := by
  rw [encoded_append, List.append_assoc]
  apply endsValue_gap behind.blank
  cases members with
  | nil =>
      rw [membersChars, List.map_nil, separated, List.nil_append, encoded_append, List.append_assoc]
      exact endsValue_gap inside.blank (endsValue_close (b := 0x7D) (by decide) rest)
  | cons m members => exact endsValue_close (b := 0x2C) (by decide) _

end Ends

section Steps

variable (gap : Blanks) (first : Bool) (inside : Blanks) (rest : List UInt8) (p : Position)

/-- White space behind a part makes no difference to what comes next. -/
theorem nextItem_blanks (bytes : List UInt8) : ∃ q,
    nextItem first ⟨encoded gap.chars ++ bytes, p⟩ = nextItem first ⟨bytes, q⟩ := by
  obtain ⟨q, hBlanks⟩ := pastBlanks_gap gap.blank bytes p
  refine ⟨q, ?_⟩
  rw [nextItem, ← lookPastBlanks_pastBlanks, hBlanks, lookPastBlanks_pastBlanks]

theorem nextKey_blanks (bytes : List UInt8) : ∃ q,
    nextKey first ⟨encoded gap.chars ++ bytes, p⟩ = nextKey first ⟨bytes, q⟩ := by
  obtain ⟨q, hBlanks⟩ := pastBlanks_gap gap.blank bytes p
  refine ⟨q, ?_⟩
  rw [nextKey, ← lookPastBlanks_pastBlanks, hBlanks, lookPastBlanks_pastBlanks]

theorem nextItem_nil : ∃ q, nextItem first ⟨encoded (gap.chars ++ itemsChars first [] inside) ++ rest, p⟩ =
    .done false ⟨0x5D :: rest, q⟩ := by
  obtain ⟨start, hBlanks⟩ := nextItem_blanks gap first p (encoded (itemsChars first [] inside) ++ rest)
  obtain ⟨q, hEnd⟩ := nextItem_close inside.blank first rest start
  refine ⟨q, ?_⟩
  rw [encoded_append, List.append_assoc, hBlanks, itemsChars, List.map_nil, separated, List.nil_append,
    encoded_append, List.append_assoc]
  exact hEnd

theorem nextItem_cons {i : Item} (items : List Item) {sign : Char} {more : List Char}
    (hBody : i.body = sign :: more) (hOpens : opensValue sign = true) : ∃ q,
    nextItem first ⟨encoded (gap.chars ++ itemsChars first (i :: items) inside) ++ rest, p⟩ =
      .done true ⟨encoded i.body ++ (encoded (i.behind.chars ++ itemsChars false items inside) ++ rest), q⟩ := by
  obtain ⟨start, hBlanks⟩ := nextItem_blanks gap first p (encoded (itemsChars first (i :: items) inside) ++ rest)
  obtain ⟨q, hNext⟩ := nextItem_gap i.before.blank first hOpens
    (more ++ (i.behind.chars ++ itemsChars false items inside)) rest start
  refine ⟨q, ?_⟩
  rw [encoded_append, List.append_assoc, hBlanks, itemsChars_cons, hBody, List.cons_append, hNext,
    ← List.cons_append, encoded_append (sign :: more), List.append_assoc]

theorem nextKey_nil : ∃ q, nextKey first ⟨encoded (gap.chars ++ membersChars first [] inside) ++ rest, p⟩ =
    .done false ⟨0x7D :: rest, q⟩ := by
  obtain ⟨start, hBlanks⟩ := nextKey_blanks gap first p (encoded (membersChars first [] inside) ++ rest)
  obtain ⟨q, hEnd⟩ := nextKey_close inside.blank first rest start
  refine ⟨q, ?_⟩
  rw [encoded_append, List.append_assoc, hBlanks, membersChars, List.map_nil, separated, List.nil_append,
    encoded_append, List.append_assoc]
  exact hEnd

theorem nextKey_cons (m : Member) (members : List Member) : ∃ q,
    nextKey first ⟨encoded (gap.chars ++ membersChars first (m :: members) inside) ++ rest, p⟩ =
      .done true ⟨encoded (quotation m.key) ++ (encoded (m.valued ++
        (m.item.behind.chars ++ membersChars false members inside)) ++ rest), q⟩ := by
  obtain ⟨start, hBlanks⟩ := nextKey_blanks gap first p
    (encoded (membersChars first (m :: members) inside) ++ rest)
  obtain ⟨q, hNext⟩ := nextKey_gap m.before.blank first (m.key.flatMap Piece.chars ++ ['"'] ++
    (m.valued ++ (m.item.behind.chars ++ membersChars false members inside))) rest start
  refine ⟨q, ?_⟩
  rw [encoded_append, List.append_assoc, hBlanks, membersChars_cons, quotation, List.cons_append, hNext,
    ← List.cons_append, encoded_append ('"' :: _), List.append_assoc]

end Steps

section Loops

variable {σ : Type} (inside : Blanks)

theorem colon_blanks (gap : Blanks) (bytes : List UInt8) (p : Position) : ∃ q,
    colon ⟨encoded gap.chars ++ 0x3A :: bytes, p⟩ = .done () ⟨bytes, q⟩ := by
  obtain ⟨start, hBlanks⟩ := pastBlanks_gap gap.blank (0x3A :: bytes) p
  refine ⟨start.after 0x3A, ?_⟩
  rw [colon, ← lookPastBlanks_pastBlanks, hBlanks, lookPastBlanks_pastBlanks]
  exact colon_cons bytes start

theorem valued_bytes (m : Member) (rest : List UInt8) : encoded m.valued ++ rest =
    encoded m.named.chars ++ 0x3A :: (encoded (m.item.before.chars ++ m.item.body) ++ rest) := by
  have hColon : String.utf8EncodeChar ':' = [0x3A] := rfl
  simp [Member.valued, hColon]

/-- What is made of a value is made of it behind its colon. -/
theorem yields_valued {r : Reader σ} {m : Member} {made : Option σ} (h : r.Takes m.item.body made) :
    (do colon; r).Yields m.valued made := by
  intro rest p hEnds
  obtain ⟨valued, hDone⟩ := colon_blanks m.named (encoded (m.item.before.chars ++ m.item.body) ++ rest) p
  obtain ⟨q, hRead⟩ := h m.item.before rest valued hEnds
  refine ⟨q, ?_⟩
  rw [valued_bytes, bind_of_done _ hDone]
  exact hRead

section Items

variable {step : σ → Reader σ} {take : σ → Item → Option σ} {items : List Item}
  (hOpens : ∀ i ∈ items, ∃ sign more, i.body = sign :: more ∧ opensValue sign = true)
  (hStep : ∀ i ∈ items, ∀ s, (step s).Yields i.body (take s i))
include hOpens hStep

theorem itemsFrom_spelled {fuel : Nat} (hFuel : items.length < fuel) (gap : Blanks) (first : Bool) (s : σ)
    (rest : List UInt8) (p : Position) : ∃ q,
    (itemsFrom step fuel first s ⟨encoded (gap.chars ++ itemsChars first items inside) ++ rest, p⟩).result? =
      (items.foldlM take s).map fun t => (t, ⟨0x5D :: rest, q⟩) := by
  obtain ⟨fuel, rfl⟩ : ∃ n, fuel = n + 1 := ⟨fuel - 1, by omega⟩
  induction items generalizing fuel gap first s p with
  | nil =>
      obtain ⟨q, hEnd⟩ := nextItem_nil gap first inside rest p
      refine ⟨q, ?_⟩
      rw [itemsFrom, bind_of_done _ hEnd, if_neg Bool.false_ne_true]
      rfl
  | cons i items ih =>
      obtain ⟨sign, more, hBody, hSign⟩ := hOpens i List.mem_cons_self
      obtain ⟨start, hNext⟩ := nextItem_cons gap first inside rest p items hBody hSign
      obtain ⟨behind, hItem⟩ := hStep i List.mem_cons_self s
        (encoded (i.behind.chars ++ itemsChars false items inside) ++ rest) start
        (endsValue_items inside rest i.behind items)
      rw [itemsFrom, bind_of_done _ hNext, if_pos rfl, result?_bind, hItem, List.foldlM_cons]
      cases take s i with
      | none => exact ⟨p, rfl⟩
      | some t =>
          obtain ⟨fuel, rfl⟩ : ∃ n, fuel = n + 1 := ⟨fuel - 1, by rw [List.length_cons] at hFuel; omega⟩
          exact ih (fun j hj => hOpens j (List.mem_cons_of_mem _ hj))
            (fun j hj => hStep j (List.mem_cons_of_mem _ hj)) i.behind false t behind fuel
            (Nat.lt_of_succ_lt_succ hFuel)

/-- A loop over the items of an array folds what its step makes of each. -/
theorem yields_items (s : σ) : (closing (Reader.items step s) closeArray).Yields (itemsChars true items inside)
    (items.foldlM take s) := by
  intro rest p _
  have hSome : ∀ i ∈ items, i.body ≠ [] := by
    intro i hi
    obtain ⟨sign, more, hBody, _⟩ := hOpens i hi
    simp [hBody]
  have hFuel := Nat.lt_succ_of_le (length_items true inside hSome rest)
  obtain ⟨q, hLoop⟩ := itemsFrom_spelled inside hOpens hStep hFuel .none true s rest p
  refine ⟨q.after 0x5D, ?_⟩
  rw [result?_closing, Reader.items]
  refine (congrArg (Option.bind · _) hLoop).trans ?_
  cases items.foldlM take s with
  | none => rfl
  | some t =>
      rw [Option.map_some, Option.bind_some, closeArray_cons]
      rfl

end Items

/-- A member is taken under its key, if that means something. -/
def underKey (take : String → Member → σ → Option σ) (s : σ) (m : Member) : Option σ :=
  (meaning m.key).bind fun key => take (String.ofList key) m s

section Members

variable {step : String → σ → Reader σ} {take : String → Member → σ → Option σ} {members : List Member}
  (hStep : ∀ m ∈ members, ∀ key s, (step key s).Yields m.valued (take key m s))
include hStep

theorem membersFrom_spelled {fuel : Nat} (hFuel : members.length < fuel) (gap : Blanks) (first : Bool) (s : σ)
    (rest : List UInt8) (p : Position) : ∃ q,
    (membersFrom quoted step fuel first s
      ⟨encoded (gap.chars ++ membersChars first members inside) ++ rest, p⟩).result? =
      (members.foldlM (underKey take) s).map fun t => (t, ⟨0x7D :: rest, q⟩) := by
  obtain ⟨fuel, rfl⟩ : ∃ n, fuel = n + 1 := ⟨fuel - 1, by omega⟩
  induction members generalizing fuel gap first s p with
  | nil =>
      obtain ⟨q, hEnd⟩ := nextKey_nil gap first inside rest p
      refine ⟨q, ?_⟩
      rw [membersFrom, bind_of_done _ hEnd, if_neg Bool.false_ne_true]
      rfl
  | cons m members ih =>
      obtain ⟨start, hNext⟩ := nextKey_cons gap first inside rest p m members
      obtain ⟨named, hKey⟩ := result?_quoted m.key (encoded (m.valued ++
        (m.item.behind.chars ++ membersChars false members inside)) ++ rest) start
      rw [membersFrom, bind_of_done _ hNext, if_pos rfl, result?_bind, hKey, List.foldlM_cons, underKey]
      cases meaning m.key with
      | none => exact ⟨p, rfl⟩
      | some key =>
          obtain ⟨behind, hMember⟩ := hStep m List.mem_cons_self (String.ofList key) s
            (encoded (m.item.behind.chars ++ membersChars false members inside) ++ rest) named
            (endsValue_members inside rest m.item.behind members)
          rw [Option.map_some, Option.bind_some, Option.bind_some, encoded_append m.valued, List.append_assoc,
            result?_bind, hMember]
          cases take (String.ofList key) m s with
          | none => exact ⟨p, rfl⟩
          | some t =>
              obtain ⟨fuel, rfl⟩ : ∃ n, fuel = n + 1 := ⟨fuel - 1, by rw [List.length_cons] at hFuel; omega⟩
              exact ih (fun n hn => hStep n (List.mem_cons_of_mem _ hn)) m.item.behind false t behind fuel
                (Nat.lt_of_succ_lt_succ hFuel)

/-- A loop over the members of an object folds what its step makes of each under its key. -/
theorem yields_members (s : σ) : (closing (Reader.members quoted step s) closeObject).Yields
    (membersChars true members inside)
    (members.foldlM (underKey take) s) := by
  intro rest p _
  have hFuel := Nat.lt_succ_of_le (length_members true inside members rest)
  obtain ⟨q, hLoop⟩ := membersFrom_spelled inside hStep hFuel .none true s rest p
  refine ⟨q.after 0x7D, ?_⟩
  rw [result?_closing, Reader.members]
  refine (congrArg (Option.bind · _) hLoop).trans ?_
  cases members.foldlM (underKey take) s with
  | none => rfl
  | some t =>
      rw [Option.map_some, Option.bind_some, closeObject_cons]
      rfl

end Members

end Loops

end Reader

end AuditDesk.Json
