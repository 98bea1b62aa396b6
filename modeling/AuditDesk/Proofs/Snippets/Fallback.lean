import AuditDesk.Proofs.Snippets.Refinement

/-! A collection that could not be read when it was opened is taken for an empty one, although the storage
still keeps a list. The list is safe until the first call that writes; from then on the storage keeps only
what has been saved since. -/
namespace AuditDesk.SnippetStore

open LawfulTextStorage
open Storage (snippetsKey)

namespace Opened

variable {σ : Type} [TextStorage σ] [LawfulTextStorage σ]

/-- What calls can lead to after the storage, which keeps the old list, failed to give it out; beside it
the list that the calls which succeed should have made of nothing, and whether one of them has changed the
list. Between two calls the storage may begin or cease to fail, and its other texts may change. -/
inductive Fallback (old : List Snippet) : Opened σ → List Snippet → Bool → Prop
  | opens {s : σ} {store : SnippetStore} {e : StorageError} (hStored : stored s = .ok old)
      (hOpen : openOrDefault s = (store, some (.storage e))) : Fallback old ⟨s, store⟩ [] false
  | shift {o : Opened σ} {list : List Snippet} {changed : Bool} (hBefore : Fallback old o list changed)
      {s : σ} (hKept : kept s snippetsKey = kept o.storage snippetsKey) :
      Fallback old ⟨s, o.store⟩ list changed
  | call {o : Opened σ} {list : List Snippet} {changed : Bool} (hBefore : Fallback old o list changed)
      (c : Call) : Fallback old (o.call c).1 (bif (o.call c).2 then c.applied list else list)
        (changed || (o.call c).1.store != o.store)

/-- A call that changes the list stores the new one, and any other call leaves everything alone. -/
theorem call_cases (o : Opened σ) (c : Call) :
    ((o.call c).1 = o ∧
        (bif (o.call c).2 then c.applied o.store.snippets else o.store.snippets) = o.store.snippets) ∨
      ((o.call c).2 = true ∧ (o.call c).1.store ≠ o.store ∧
        (o.call c).1.store.snippets = c.applied o.store.snippets ∧
        stored (o.call c).1.storage = .ok (c.applied o.store.snippets)) := by
  cases c with
  | save name code language =>
      by_cases hBlank : Text.trim name = "" ∨ Text.trim code = ""
      · left
        simp only [call, Call.applied, if_pos hBlank, Bool.cond_self]
        rw [save_of_blank _ _ language hBlank]
        exact ⟨rfl, trivial⟩
      · obtain ⟨hName, hCode⟩ := not_or.mp hBlank
        simp only [call, Call.applied, if_neg hBlank]
        rw [save_of_filled _ _ language hName hCode]
        rcases persist_cases o.store o.storage (o.store.snippets ++ [⟨name, code, language⟩]) true with
          ⟨e, hFailed⟩ | ⟨next, hDone, hStored⟩
        · rw [hFailed]
          exact .inl ⟨rfl, rfl⟩
        · rw [hDone]
          refine .inr ⟨rfl, fun hSame => ?_, rfl, hStored⟩
          have hLength := congrArg (fun store => store.snippets.length) hSame
          simp at hLength
  | delete index =>
      simp only [call, Call.applied]
      cases hFound : o.store.snippets[index]? with
      | none =>
          have hAbsent : o.store.size ≤ index := List.getElem?_eq_none_iff.mp hFound
          rw [delete_of_absent _ _ hAbsent, List.eraseIdx_of_length_le hAbsent, Bool.cond_self]
          exact .inl ⟨rfl, rfl⟩
      | some found =>
          have hPresent : index < o.store.snippets.length := (List.getElem?_eq_some_iff.mp hFound).1
          rw [delete_of_present _ _ hFound]
          rcases persist_cases o.store o.storage (o.store.snippets.eraseIdx index) (some found) with
            ⟨e, hFailed⟩ | ⟨next, hDone, hStored⟩
          · rw [hFailed]
            exact .inl ⟨rfl, rfl⟩
          · rw [hDone]
            refine .inr ⟨rfl, fun hSame => ?_, rfl, hStored⟩
            have hLength := congrArg (fun store => store.snippets.length) hSame
            simp only [List.length_eraseIdx_of_lt hPresent] at hLength
            omega

variable {old list : List Snippet} {changed : Bool} {o : Opened σ}

theorem Fallback.content (h : o.Fallback old list changed) :
    o.store.snippets = list ∧ stored o.storage = .ok (bif changed then list else old) := by
  induction h with
  | @opens s store e hStored hOpen =>
      refine ⟨?_, hStored⟩
      unfold openOrDefault at hOpen
      split at hOpen
      · cases hOpen
      · cases hOpen
        rfl
  | shift _ hKept ih => exact ⟨ih.1, (stored_of_kept hKept).trans ih.2⟩
  | @call o list changed _ c ih =>
      obtain ⟨rfl, hStored⟩ := ih
      rcases call_cases o c with ⟨hSame, hList⟩ | ⟨hOk, hStore, hList, hNew⟩
      · rw [hList, hSame, bne_self_eq_false, Bool.or_false]
        exact ⟨rfl, hStored⟩
      · rw [hOk, bne_iff_ne.mpr hStore, Bool.or_true]
        exact ⟨hList, hNew⟩

end Opened

variable {σ : Type} [TextStorage σ] [LawfulTextStorage σ]

/-- After a failed reading at the start, the list that was stored before is safe as long as no call has
changed the list in memory. Once one has, just the list in memory is stored, and of the old snippets only
those that have been saved again are left. -/
theorem fallback_keeps_iff {old list : List Snippet} {changed : Bool} {o : Opened σ}
    (h : o.Fallback old list changed) :
    o.store.snippets = list ∧ ∃ kept, stored o.storage = .ok kept ∧
      (changed = false → kept = old) ∧ (changed = true → kept = list) ∧
      ((∀ snippet ∈ old, snippet ∈ kept) ↔ changed = false ∨ ∀ snippet ∈ old, snippet ∈ list) := by
  obtain ⟨hList, hStored⟩ := h.content
  refine ⟨hList, _, hStored, ?_⟩
  cases changed with
  | false => exact ⟨fun _ => rfl, nofun, fun _ => .inl rfl, fun _ _ hMem => hMem⟩
  | true =>
      refine ⟨nofun, fun _ => rfl, .inr, fun hKept => ?_⟩
      rcases hKept with hUnchanged | hSaved
      · cases hUnchanged
      · exact hSaved

namespace Opened

/-- A storage that keeps a snippet and cannot be read. -/
def unreadable : Storage := ⟨[(snippetsKey, encode [⟨"a", "x", .solidity⟩])], [.get]⟩

theorem stored_unreadable : stored unreadable = .ok [⟨"a", "x", .solidity⟩] :=
  decode_encode [⟨"a", "x", .solidity⟩]

/-- The collection that is taken for an empty one, while just these operations of its storage fail. -/
def mistaken (failing : List StorageAccess) : Opened Storage :=
  ⟨{ unreadable with failing := failing }, ⟨[]⟩⟩

theorem fallback_mistaken (failing : List StorageAccess) :
    (mistaken failing).Fallback [⟨"a", "x", .solidity⟩] [] false :=
  .shift (.opens stored_unreadable rfl) rfl

/-- A save that fails as well does no harm. -/
theorem fallback_keeps_iff_failing :
    ((mistaken [.set]).call (.save "b" "y" .vyper)).1.Fallback [⟨"a", "x", .solidity⟩] [] false ∧
      stored ((mistaken [.set]).call (.save "b" "y" .vyper)).1.storage =
        .ok [⟨"a", "x", .solidity⟩] := by
  have hFallback := (fallback_mistaken [.set]).call (.save "b" "y" .vyper)
  obtain ⟨_, kept, hStored, hSafe, _⟩ := fallback_keeps_iff hFallback
  refine ⟨hFallback, ?_⟩
  rw [hStored, hSafe rfl]

/-- The first save that succeeds destroys what was stored before. -/
theorem old_lost_mistaken :
    ((mistaken []).call (.save "b" "y" .vyper)).1.Fallback [⟨"a", "x", .solidity⟩]
        [⟨"b", "y", .vyper⟩] true ∧
      stored ((mistaken []).call (.save "b" "y" .vyper)).1.storage = .ok [⟨"b", "y", .vyper⟩] := by
  have hFallback := (fallback_mistaken []).call (.save "b" "y" .vyper)
  exact ⟨hFallback, hFallback.content.2⟩

end Opened

end AuditDesk.SnippetStore
