import AuditDesk.Proofs.Snippets.Refinement
import Mathlib.Data.List.Perm.Subperm

/-! Several processes keep the collection open on one storage. Each of them writes the whole list that it
has in memory, so what the others have saved survives a save exactly when that list is the stored one. A
snippet that is lost is made up for by no later save. -/
namespace AuditDesk.SnippetStore

open LawfulTextStorage
open Storage (snippetsKey)

/-- A snippet that was saved, with the list that its process had in memory and the list that was stored at
that moment. -/
structure Saving where
  snippet : Snippet
  known : List Snippet
  found : Except StoreError (List Snippet)

/-- A storage, the collections that processes have opened on it, and what they have saved so far. -/
structure Shared (ι σ : Type) where
  storage : σ
  opened : ι → Option SnippetStore
  savings : List Saving

namespace Shared

variable {ι σ : Type} [DecidableEq ι] [TextStorage σ] [LawfulTextStorage σ]

/-- From now on a process has this collection in memory. -/
def hold (w : Shared ι σ) (process : ι) (store : SnippetStore) : Shared ι σ :=
  { w with opened := fun other => if other = process then some store else w.opened other }

/-- A process that has this collection in memory saves a snippet, or tries to. -/
def save (w : Shared ι σ) (process : ι) (store : SnippetStore) (snippet : Snippet) : Shared ι σ :=
  let out := store.save w.storage snippet.name snippet.code snippet.language
  { w.hold process out.store with
    storage := out.storage
    savings := match out.answer with
      | .ok true => w.savings ++ [⟨snippet, store.snippets, stored w.storage⟩]
      | _ => w.savings }

/-- What opening and saving in any order can lead to. A process may open the collection any number of
times. Between two calls the storage may begin or cease to fail, and its other texts may change. -/
inductive Run (initial : List Snippet) : Shared ι σ → Prop
  | start {s : σ} (hStored : stored s = .ok initial) : Run initial ⟨s, fun _ => none, []⟩
  | shift {w : Shared ι σ} (hBefore : Run initial w) {s : σ}
      (hKept : kept s snippetsKey = kept w.storage snippetsKey) : Run initial { w with storage := s }
  | opens {w : Shared ι σ} (hBefore : Run initial w) (process : ι) {store : SnippetStore}
      (hLoad : load w.storage = .ok store) : Run initial (w.hold process store)
  | saves {w : Shared ι σ} (hBefore : Run initial w) (process : ι) {store : SnippetStore}
      (hOpened : w.opened process = some store) (snippet : Snippet) :
      Run initial (w.save process store snippet)

def saved (w : Shared ι σ) : List Snippet := w.savings.map Saving.snippet

/-- Every process had the stored list in memory when it saved. -/
def Current (w : Shared ι σ) : Prop := ∀ saving ∈ w.savings, saving.found = .ok saving.known

/-- How the stored list and the lists in memory stand to all that should be stored. As long as every
saving process was current, the stored list is all of it and every list in memory a beginning of it. After
that, every list is too short, and stays so: a save makes a list longer by no more than is due. -/
structure Tracks (initial : List Snippet) (w : Shared ι σ) (list : List Snippet) : Prop where
  stored : stored w.storage = .ok list
  whole : w.Current → list = initial ++ w.saved ∧
    ∀ process store, w.opened process = some store → store.snippets <+: initial ++ w.saved
  short : ¬ w.Current → list.length < (initial ++ w.saved).length ∧
    ∀ process store, w.opened process = some store →
      store.snippets.length < (initial ++ w.saved).length

variable {initial list : List Snippet} {w : Shared ι σ}

section Step

variable {process : ι} {store : SnippetStore}

theorem Tracks.hold (h : w.Tracks initial list)
    (hWhole : w.Current → store.snippets <+: initial ++ w.saved)
    (hShort : ¬ w.Current → store.snippets.length < (initial ++ w.saved).length) :
    (w.hold process store).Tracks initial list := by
  refine ⟨h.stored, fun hCurrent => ⟨(h.whole hCurrent).1, ?_⟩, fun hStale => ⟨(h.short hStale).1, ?_⟩⟩
  · intro other held hHeld
    simp only [Shared.hold] at hHeld
    split at hHeld
    · cases hHeld
      exact hWhole hCurrent
    · exact (h.whole hCurrent).2 other held hHeld
  · intro other held hHeld
    simp only [Shared.hold] at hHeld
    split at hHeld
    · cases hHeld
      exact hShort hStale
    · exact (h.short hStale).2 other held hHeld

theorem Tracks.opens (h : w.Tracks initial list) (hLoad : load w.storage = .ok store) :
    (w.hold process store).Tracks initial list := by
  have hSame : store.snippets = list := by
    have hStored := stored_of_load hLoad
    rw [h.stored] at hStored
    exact (Except.ok.inj hStored).symm
  refine h.hold (fun hCurrent => ?_) fun hStale => ?_
  · exact ⟨[], by rw [List.append_nil, hSame, (h.whole hCurrent).1]⟩
  · rw [hSame]
    exact (h.short hStale).1

theorem save_of_unsaved (hOpened : w.opened process = some store) {snippet : Snippet}
    (hAnswer : (store.save w.storage snippet.name snippet.code snippet.language).answer ≠ .ok true) :
    w.save process store snippet = w := by
  obtain ⟨hStorage, hStore⟩ :=
    (save_rules store w.storage snippet.name snippet.code snippet.language).untouched hAnswer
  have hHold : w.hold process store = w := by
    have hSame : (w.hold process store).opened = w.opened := by
      funext other
      simp only [Shared.hold]
      split
      · rename_i hProcess
        rw [hProcess, hOpened]
      · rfl
    exact congrArg (fun opened => { w with opened := opened }) hSame
  simp only [Shared.save, hStorage, hStore, hHold]

section Saved

variable {snippet : Snippet}
  (hAnswer : (store.save w.storage snippet.name snippet.code snippet.language).answer = .ok true)
include hAnswer

theorem stored_of_saved (process : ι) :
    SnippetStore.stored (w.save process store snippet).storage = .ok (store.snippets ++ [snippet]) := by
  have hRules := save_rules store w.storage snippet.name snippet.code snippet.language
  have hFilled : ¬ (Text.trim snippet.name = "" ∨ Text.trim snippet.code = "") := by
    rw [← hRules.refused, hAnswer]
    exact nofun
  obtain ⟨hName, hCode⟩ := not_or.mp hFilled
  simp only [Shared.save]
  rw [save_of_filled store w.storage snippet.language hName hCode] at hAnswer ⊢
  rcases persist_cases store w.storage (store.snippets ++ [snippet]) true with
    ⟨e, hFailed⟩ | ⟨next, hDone, hStored⟩
  · rw [hFailed] at hAnswer
    cases hAnswer
  · rw [hDone]
    exact hStored

theorem savings_of_saved : (w.save process store snippet).savings =
    w.savings ++ [⟨snippet, store.snippets, SnippetStore.stored w.storage⟩] := by
  simp only [Shared.save, hAnswer]

theorem saved_of_saved : (w.save process store snippet).saved = w.saved ++ [snippet] := by
  rw [saved, savings_of_saved hAnswer, List.map_append]
  rfl

theorem current_of_saved : (w.save process store snippet).Current ↔
    w.Current ∧ SnippetStore.stored w.storage = .ok store.snippets := by
  simp only [Current, savings_of_saved hAnswer, List.forall_mem_append, List.forall_mem_singleton]

theorem opened_of_saved {other : ι} {held : SnippetStore}
    (hHeld : (w.save process store snippet).opened other = some held) :
    held.snippets = store.snippets ++ [snippet] ∨ w.opened other = some held := by
  have hRules := save_rules store w.storage snippet.name snippet.code snippet.language
  simp only [Shared.save, Shared.hold, hRules.added hAnswer] at hHeld
  split at hHeld
  · cases hHeld
    exact .inl rfl
  · exact .inr hHeld

end Saved

/-- A save from the stored list adds to it, and one from another list leaves it too short. -/
theorem Tracks.saves (h : w.Tracks initial list) (hOpened : w.opened process = some store)
    (snippet : Snippet) : ∃ after, (w.save process store snippet).Tracks initial after := by
  by_cases hAnswer :
      (store.save w.storage snippet.name snippet.code snippet.language).answer = .ok true
  · refine ⟨store.snippets ++ [snippet], stored_of_saved hAnswer process, fun hCurrent => ?_, fun hStale => ?_⟩
    · obtain ⟨hBefore, hFound⟩ := (current_of_saved hAnswer).mp hCurrent
      obtain ⟨hList, hPrefixes⟩ := h.whole hBefore
      have hKnown : store.snippets = initial ++ w.saved := by
        rw [h.stored] at hFound
        exact (Except.ok.inj hFound).symm.trans hList
      rw [saved_of_saved hAnswer, ← List.append_assoc, hKnown]
      refine ⟨rfl, fun other held hHeld => ?_⟩
      rcases opened_of_saved hAnswer hHeld with hOwn | hOther
      · exact ⟨[], by rw [List.append_nil, hOwn, hKnown]⟩
      · exact (hPrefixes other held hOther).trans (List.prefix_append _ _)
    · -- Up to now no list had more than all the snippets; this one had fewer, or they were lost before.
      have hTotal : (initial ++ (w.save process store snippet).saved).length =
          (initial ++ w.saved).length + 1 := by
        rw [saved_of_saved hAnswer, ← List.append_assoc, List.length_append]
        rfl
      have hKnown : store.snippets.length < (initial ++ w.saved).length := by
        by_cases hBefore : w.Current
        · obtain ⟨hList, hPrefixes⟩ := h.whole hBefore
          have hPrefix := hPrefixes process store hOpened
          refine Nat.lt_of_le_of_ne hPrefix.length_le fun hLength => hStale ?_
          rw [current_of_saved hAnswer, h.stored, hList, hPrefix.eq_of_length hLength]
          exact ⟨hBefore, rfl⟩
        · exact (h.short hBefore).2 process store hOpened
      have hOthers : ∀ other held, w.opened other = some held →
          held.snippets.length ≤ (initial ++ w.saved).length := by
        intro other held hHeld
        by_cases hBefore : w.Current
        · exact ((h.whole hBefore).2 other held hHeld).length_le
        · exact Nat.le_of_lt ((h.short hBefore).2 other held hHeld)
      have hLonger : (store.snippets ++ [snippet]).length = store.snippets.length + 1 :=
        List.length_append
      refine ⟨by omega, fun other held hHeld => ?_⟩
      rcases opened_of_saved hAnswer hHeld with hOwn | hOther
      · rw [hOwn]
        omega
      · have hHeldLength := hOthers other held hOther
        omega
  · rw [save_of_unsaved hOpened hAnswer]
    exact ⟨list, h⟩

end Step

theorem Run.tracks (h : w.Run initial) : ∃ list, w.Tracks initial list := by
  induction h with
  | start hStored =>
      refine ⟨initial, hStored, fun _ => ⟨(List.append_nil initial).symm, nofun⟩, fun hStale => ?_⟩
      exact absurd (fun _ hMem => absurd hMem List.not_mem_nil) hStale
  | shift _ hKept ih =>
      obtain ⟨list, hTracks⟩ := ih
      exact ⟨list, (stored_of_kept hKept).trans hTracks.stored, hTracks.whole, hTracks.short⟩
  | opens _ process hLoad ih =>
      obtain ⟨list, hTracks⟩ := ih
      exact ⟨list, hTracks.opens hLoad⟩
  | saves _ process hOpened snippet ih =>
      obtain ⟨list, hTracks⟩ := ih
      exact hTracks.saves hOpened snippet

end Shared

variable {ι σ : Type} [DecidableEq ι] [TextStorage σ] [LawfulTextStorage σ]

/-- In whatever order processes open the collection and save, the stored list has every snippet that it
began with and every one that was saved, as many times as it should, exactly if every process saved from
the list that was stored. It then holds all of them in the order in which they were saved. -/
theorem shared_keeps_all_iff {initial : List Snippet} {w : Shared ι σ} (h : w.Run initial) :
    ∃ list, stored w.storage = .ok list ∧ ((initial ++ w.saved).Subperm list ↔ w.Current) ∧
      (w.Current → list = initial ++ w.saved) := by
  obtain ⟨list, hTracks⟩ := h.tracks
  refine ⟨list, hTracks.stored, ⟨fun hAll => ?_, fun hCurrent => ?_⟩, fun hCurrent => ?_⟩
  · by_contra hStale
    exact absurd hAll.length_le (Nat.not_le.mpr (hTracks.short hStale).1)
  · rw [(hTracks.whole hCurrent).1]
  · exact (hTracks.whole hCurrent).1

namespace Shared

/-- A process has opened the collection on an empty storage and saved a snippet. -/
def begun : Shared Bool Storage :=
  (Shared.hold ⟨Storage.empty, fun _ => none, []⟩ false ⟨[]⟩).save false ⟨[]⟩ ⟨"a", "x", .solidity⟩

theorem stored_begun : stored begun.storage = .ok [⟨"a", "x", .solidity⟩] :=
  stored_of_saved rfl false

theorem run_begun : begun.Run [] := by
  have hEmpty : Shared.Run [] (⟨Storage.empty, fun _ => none, []⟩ : Shared Bool Storage) := .start rfl
  exact (hEmpty.opens false rfl).saves false rfl _

theorem current_begun : begun.Current :=
  (current_of_saved rfl).mpr ⟨fun _ hMem => absurd hMem List.not_mem_nil, rfl⟩

/-- Another process opens the collection, and the first one saves again, which the other does not
notice. -/
def parted : Shared Bool Storage :=
  (begun.hold true ⟨[⟨"a", "x", .solidity⟩]⟩).save false ⟨[⟨"a", "x", .solidity⟩]⟩ ⟨"b", "y", .vyper⟩

theorem run_parted : parted.Run [] := by
  have hLoad : load begun.storage = .ok ⟨[⟨"a", "x", .solidity⟩]⟩ :=
    Opened.load_of_agrees (o := ⟨begun.storage, ⟨_⟩⟩) stored_begun rfl
  exact (run_begun.opens true hLoad).saves false rfl _

/-- Nothing is lost as long as nobody saves from an old list. -/
theorem shared_keeps_all_iff_parted :
    parted.Run [] ∧ parted.Current ∧ stored parted.storage =
      .ok [⟨"a", "x", .solidity⟩, ⟨"b", "y", .vyper⟩] := by
  have hCurrent : parted.Current := (current_of_saved rfl).mpr ⟨current_begun, stored_begun⟩
  obtain ⟨list, hStored, _, hWhole⟩ := shared_keeps_all_iff run_parted
  refine ⟨run_parted, hCurrent, ?_⟩
  rw [hStored, hWhole hCurrent]
  rfl

/-- The other process saves from the list that it read before. -/
def overwritten : Shared Bool Storage :=
  parted.save true ⟨[⟨"a", "x", .solidity⟩]⟩ ⟨"c", "z", .solidity⟩

/-- A snippet that one process has saved is lost when another one saves from the list that it read before,
although every call succeeds. -/
theorem saved_lost_overwritten :
    overwritten.Run [] ∧
      overwritten.saved = [⟨"a", "x", .solidity⟩, ⟨"b", "y", .vyper⟩, ⟨"c", "z", .solidity⟩] ∧
      stored overwritten.storage = .ok [⟨"a", "x", .solidity⟩, ⟨"c", "z", .solidity⟩] :=
  ⟨run_parted.saves true rfl _, rfl, stored_of_saved rfl true⟩

end Shared

end AuditDesk.SnippetStore
