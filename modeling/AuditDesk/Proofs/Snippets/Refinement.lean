import AuditDesk.Proofs.Wire.Snippets

/-! The list in memory and the stored text of a collection are the same list after every call, whichever
writes fail on the way. A call that is refused or fails leaves both alone. This is so for any storage that
behaves as a map from keys to texts. -/
namespace AuditDesk.SnippetStore

open LawfulTextStorage
open Storage (snippetsKey)

section Storing

variable {σ : Type} [TextStorage σ]

theorem load_of_failed {s : σ} {e : StorageError} (h : TextStorage.get s snippetsKey = .error e) :
    load s = .error (.storage e) := by
  simp only [load, read, h]
  rfl

variable [LawfulTextStorage σ]

/-- The list that the kept text holds, whether or not it can be read at present. -/
def stored (s : σ) : Except StoreError (List Snippet) :=
  match kept s snippetsKey with
  | some raw => decode raw
  | none => .ok []

theorem stored_of_kept {s next : σ} (h : kept next snippetsKey = kept s snippetsKey) :
    stored next = stored s := by
  rw [stored, h, stored]

theorem stored_set {s next : σ} {updated : List Snippet}
    (h : TextStorage.set s snippetsKey (encode updated) = .ok next) : stored next = .ok updated := by
  rw [stored, kept_set h, if_pos rfl]
  exact decode_encode updated

theorem load_of_get {s : σ} {found : Option String} (h : TextStorage.get s snippetsKey = .ok found) :
    load s = (stored s).map SnippetStore.mk := by
  simp only [load, read, h, stored, kept_of_get h]
  cases found <;> rfl

theorem stored_of_load {s : σ} {store : SnippetStore} (h : load s = .ok store) :
    stored s = .ok store.snippets := by
  cases hGet : TextStorage.get s snippetsKey with
  | error e =>
      rw [load_of_failed hGet] at h
      cases h
  | ok found =>
      rw [load_of_get hGet] at h
      cases hStored : stored s with
      | error e => rw [hStored] at h; cases h
      | ok snippets => rw [hStored] at h; cases h; rfl

end Storing

section Rules

variable {σ : Type} [TextStorage σ] (store : SnippetStore) (s : σ)

/-- What saving under this storage answers and changes. -/
structure SaveRules (name code : String) (language : Language) : Prop where
  refused : (store.save s name code language).answer = .ok false ↔
    Text.trim name = "" ∨ Text.trim code = ""
  failed : ∀ e, (store.save s name code language).answer = .error e ↔
    Text.trim name ≠ "" ∧ Text.trim code ≠ "" ∧ ∃ cause, e = .storage cause ∧
      TextStorage.set s snippetsKey (encode (store.snippets ++ [⟨name, code, language⟩])) = .error cause
  untouched : (store.save s name code language).answer ≠ .ok true →
    (store.save s name code language).storage = s ∧ (store.save s name code language).store = store
  added : (store.save s name code language).answer = .ok true →
    (store.save s name code language).store = ⟨store.snippets ++ [⟨name, code, language⟩]⟩

/-- What deleting under this storage answers and changes. -/
structure DeleteRules (index : Nat) : Prop where
  absent : (store.delete s index).answer = .ok none ↔ store.size ≤ index
  failed : ∀ e, (store.delete s index).answer = .error e ↔
    index < store.size ∧ ∃ cause, e = .storage cause ∧
      TextStorage.set s snippetsKey (encode (store.snippets.eraseIdx index)) = .error cause
  untouched : (∀ removed, (store.delete s index).answer ≠ .ok (some removed)) →
    (store.delete s index).storage = s ∧ (store.delete s index).store = store
  removed : ∀ removed, (store.delete s index).answer = .ok (some removed) →
    store.snippets[index]? = some removed ∧
      (store.delete s index).store = ⟨store.snippets.eraseIdx index⟩

section Cases

variable {s}

theorem persist_of_failed {α : Type} {updated : List Snippet} {e : StorageError} (answer : α)
    (h : TextStorage.set s snippetsKey (encode updated) = .error e) :
    store.persist s updated answer = ⟨.error (.storage e), s, store⟩ := by
  simp only [persist, h]

theorem persist_of_done {α : Type} {updated : List Snippet} {next : σ} (answer : α)
    (h : TextStorage.set s snippetsKey (encode updated) = .ok next) :
    store.persist s updated answer = ⟨.ok answer, next, ⟨updated⟩⟩ := by
  simp only [persist, h]

variable (s)

theorem save_of_blank {name code : String} (language : Language)
    (h : Text.trim name = "" ∨ Text.trim code = "") :
    store.save s name code language = ⟨.ok false, s, store⟩ := by
  rw [Text.trim_eq_empty_iff, Text.trim_eq_empty_iff] at h
  simp [save, h]

theorem save_of_filled {name code : String} (language : Language)
    (hName : Text.trim name ≠ "") (hCode : Text.trim code ≠ "") :
    store.save s name code language =
      store.persist s (store.snippets ++ [⟨name, code, language⟩]) true := by
  rw [Ne, Text.trim_eq_empty_iff] at hName hCode
  simp [save, hName, hCode]

theorem delete_of_absent {index : Nat} (h : store.size ≤ index) :
    store.delete s index = ⟨.ok none, s, store⟩ := by
  have hNone : store.get? index = none := List.getElem?_eq_none h
  simp [delete, hNone]

theorem delete_of_present {index : Nat} {found : Snippet}
    (h : store.snippets[index]? = some found) :
    store.delete s index = store.persist s (store.snippets.eraseIdx index) (some found) := by
  have hFound : store.get? index = some found := h
  simp [delete, hFound]

end Cases

/-- Either nothing happens, or the list is replaced in the storage and in memory. -/
theorem persist_cases [LawfulTextStorage σ] {α : Type} (updated : List Snippet) (answer : α) :
    (∃ e, store.persist s updated answer = ⟨.error e, s, store⟩) ∨
      ∃ next, store.persist s updated answer = ⟨.ok answer, next, ⟨updated⟩⟩ ∧
        stored next = .ok updated := by
  cases hSet : TextStorage.set s snippetsKey (encode updated) with
  | error e => exact .inl ⟨_, persist_of_failed store answer hSet⟩
  | ok next => exact .inr ⟨next, persist_of_done store answer hSet, stored_set hSet⟩

theorem save_rules (name code : String) (language : Language) :
    SaveRules store s name code language := by
  by_cases hBlank : Text.trim name = "" ∨ Text.trim code = ""
  · have hSave := save_of_blank store s language hBlank
    refine ⟨?_, fun e => ?_, fun _ => ?_, fun hAdded => ?_⟩
    · simp [hSave, hBlank]
    · rw [hSave]
      constructor
      · rintro ⟨⟩
      · rintro ⟨hName, hCode, _⟩
        exact absurd hBlank (not_or.mpr ⟨hName, hCode⟩)
    · rw [hSave]
      exact ⟨rfl, rfl⟩
    · rw [hSave] at hAdded
      cases hAdded
  · obtain ⟨hName, hCode⟩ := not_or.mp hBlank
    have hSave := save_of_filled store s language hName hCode
    cases hSet : TextStorage.set s snippetsKey (encode (store.snippets ++ [⟨name, code, language⟩])) with
    | error cause =>
        rw [persist_of_failed store true hSet] at hSave
        refine ⟨?_, fun e => ?_, fun _ => ?_, fun hAdded => ?_⟩
        · simp [hSave, hName, hCode]
        · simp [hSave, hName, hCode, hSet, eq_comm]
        · rw [hSave]
          exact ⟨rfl, rfl⟩
        · rw [hSave] at hAdded
          cases hAdded
    | ok next =>
        rw [persist_of_done store true hSet] at hSave
        refine ⟨?_, fun e => ?_, fun hKept => ?_, fun _ => ?_⟩
        · simp [hSave, hName, hCode]
        · simp [hSave, hSet]
        · rw [hSave] at hKept
          exact absurd rfl hKept
        · rw [hSave]

theorem delete_rules (index : Nat) : DeleteRules store s index := by
  cases hFound : store.snippets[index]? with
  | none =>
      have hAbsent : store.size ≤ index := List.getElem?_eq_none_iff.mp hFound
      have hDelete := delete_of_absent store s hAbsent
      refine ⟨?_, fun e => ?_, fun _ => ?_, fun found hRemoved => ?_⟩
      · simp [hDelete, hAbsent]
      · simp [hDelete, Nat.not_lt.mpr hAbsent]
      · rw [hDelete]
        exact ⟨rfl, rfl⟩
      · rw [hDelete] at hRemoved
        cases hRemoved
  | some found =>
      have hPresent : index < store.size := (List.getElem?_eq_some_iff.mp hFound).1
      have hDelete := delete_of_present store s hFound
      cases hSet : TextStorage.set s snippetsKey (encode (store.snippets.eraseIdx index)) with
      | error cause =>
          rw [persist_of_failed store (some found) hSet] at hDelete
          refine ⟨?_, fun e => ?_, fun _ => ?_, fun _ hRemoved => ?_⟩
          · simp [hDelete, Nat.not_le.mpr hPresent]
          · simp [hDelete, hPresent, hSet, eq_comm]
          · rw [hDelete]
            exact ⟨rfl, rfl⟩
          · rw [hDelete] at hRemoved
            cases hRemoved
      | ok next =>
          rw [persist_of_done store (some found) hSet] at hDelete
          refine ⟨?_, fun e => ?_, fun hKept => ?_, fun _ hRemoved => ?_⟩
          · simp [hDelete, Nat.not_le.mpr hPresent]
          · simp [hDelete, hSet]
          · rw [hDelete] at hKept
            exact absurd rfl (hKept found)
          · rw [hDelete] at hRemoved ⊢
            cases hRemoved
            exact ⟨hFound, rfl⟩

end Rules

section Runs

inductive Call where
  | save (name code : String) (language : Language)
  | delete (index : Nat)

/-- What a call should make of a list. -/
def Call.applied (list : List Snippet) : Call → List Snippet
  | .save name code language =>
      if Text.trim name = "" ∨ Text.trim code = "" then list
      else list ++ [⟨name, code, language⟩]
  | .delete index => list.eraseIdx index

/-- A collection and the storage it was read from. -/
structure Opened (σ : Type) where
  storage : σ
  store : SnippetStore

namespace Opened

variable {σ : Type} [TextStorage σ]

/-- What a call leaves, and whether it succeeds. -/
def call (o : Opened σ) : Call → Opened σ × Bool
  | .save name code language =>
      let out := o.store.save o.storage name code language
      (⟨out.storage, out.store⟩, out.answer.isOk)
  | .delete index =>
      let out := o.store.delete o.storage index
      (⟨out.storage, out.store⟩, out.answer.isOk)

variable [LawfulTextStorage σ]

/-- The collections that calls can lead to, beside the list that those calls that succeed should have
made. Between two calls the storage may begin or cease to fail, and its other texts may change. -/
inductive Run : Opened σ → List Snippet → Prop
  | load {s : σ} {store : SnippetStore} (hLoad : load s = .ok store) : Run ⟨s, store⟩ store.snippets
  | shift {o : Opened σ} {list : List Snippet} (hBefore : Run o list) {s : σ}
      (hKept : kept s snippetsKey = kept o.storage snippetsKey) : Run ⟨s, o.store⟩ list
  | call {o : Opened σ} {list : List Snippet} (hBefore : Run o list) (c : Call) :
      Run (o.call c).1 (bif (o.call c).2 then c.applied list else list)

/-- The storage holds the list that is in memory. -/
def Agrees (o : Opened σ) : Prop := stored o.storage = .ok o.store.snippets

variable {o : Opened σ}

/-- Both copies of the list are replaced, or neither is. -/
theorem persist_agrees {α : Type} (hAgrees : o.Agrees) (updated : List Snippet) (answer : α) :
    let out := o.store.persist o.storage updated answer
    stored out.storage = .ok out.store.snippets ∧
      out.store.snippets = bif out.answer.isOk then updated else o.store.snippets := by
  cases hSet : TextStorage.set o.storage snippetsKey (encode updated) with
  | error e =>
      rw [persist_of_failed o.store answer hSet]
      exact ⟨hAgrees, rfl⟩
  | ok next =>
      rw [persist_of_done o.store answer hSet]
      exact ⟨stored_set hSet, rfl⟩

theorem save_agrees (hAgrees : o.Agrees) (name code : String) (language : Language) :
    let c : Call := .save name code language
    (o.call c).1.Agrees ∧ (o.call c).1.store.snippets =
      bif (o.call c).2 then c.applied o.store.snippets else o.store.snippets := by
  by_cases hBlank : Text.trim name = "" ∨ Text.trim code = ""
  · simp only [call, Agrees, Call.applied, if_pos hBlank, Bool.cond_self]
    rw [save_of_blank _ _ language hBlank]
    exact ⟨hAgrees, rfl⟩
  · obtain ⟨hName, hCode⟩ := not_or.mp hBlank
    simp only [call, Agrees, Call.applied, if_neg hBlank]
    rw [save_of_filled _ _ language hName hCode]
    exact persist_agrees hAgrees _ true

theorem delete_agrees (hAgrees : o.Agrees) (index : Nat) :
    let c : Call := .delete index
    (o.call c).1.Agrees ∧ (o.call c).1.store.snippets =
      bif (o.call c).2 then c.applied o.store.snippets else o.store.snippets := by
  simp only [call, Agrees, Call.applied]
  cases hFound : o.store.snippets[index]? with
  | none =>
      have hAbsent : o.store.size ≤ index := List.getElem?_eq_none_iff.mp hFound
      rw [delete_of_absent _ _ hAbsent, List.eraseIdx_of_length_le hAbsent, Bool.cond_self]
      exact ⟨hAgrees, rfl⟩
  | some found =>
      rw [delete_of_present _ _ hFound]
      exact persist_agrees hAgrees _ (some found)

theorem call_agrees (hAgrees : o.Agrees) (c : Call) :
    (o.call c).1.Agrees ∧ (o.call c).1.store.snippets =
      bif (o.call c).2 then c.applied o.store.snippets else o.store.snippets := by
  cases c with
  | save name code language => exact save_agrees hAgrees name code language
  | delete index => exact delete_agrees hAgrees index

theorem Run.agrees {list : List Snippet} (h : Run o list) : o.Agrees ∧ o.store.snippets = list := by
  induction h with
  | load hLoad => exact ⟨stored_of_load hLoad, rfl⟩
  | shift _ hKept ih => exact ⟨(stored_of_kept hKept).trans ih.1, ih.2⟩
  | call _ c ih =>
      obtain ⟨hAgrees, rfl⟩ := ih
      exact call_agrees hAgrees c

theorem load_of_agrees (hAgrees : o.Agrees) {found : Option String}
    (hGet : TextStorage.get o.storage snippetsKey = .ok found) : load o.storage = .ok o.store := by
  rw [load_of_get hGet, hAgrees]
  rfl

end Opened

variable {σ : Type} [TextStorage σ] [LawfulTextStorage σ]

/-- A collection that could be opened stays one list under two representations: after any calls, the
list in memory is the list a plain list would have become, a fresh opening reads the same list unless
the reading fails, and the next call follows the rules, whether or not the storage fails then. -/
theorem opened_refines_list {o : Opened σ} {list : List Snippet} (h : o.Run list) :
    o.store.snippets = list ∧
      (∀ found, TextStorage.get o.storage snippetsKey = .ok found → load o.storage = .ok o.store) ∧
      (∀ name code language, SaveRules o.store o.storage name code language) ∧
      ∀ index, DeleteRules o.store o.storage index := by
  obtain ⟨hAgrees, hList⟩ := h.agrees
  refine ⟨hList, fun found hGet => Opened.load_of_agrees hAgrees hGet, ?_, ?_⟩
  · exact fun name code language => save_rules _ _ name code language
  · exact fun index => delete_rules _ _ index

/-- The same collection while just these operations of its storage fail. -/
def Opened.during (o : Opened Storage) (failing : List StorageAccess) : Opened Storage :=
  ⟨{ o.storage with failing := failing }, o.store⟩

theorem Opened.Run.during {o : Opened Storage} {list : List Snippet} (h : o.Run list)
    (failing : List StorageAccess) : (o.during failing).Run list :=
  .shift h rfl

/-- A collection where the second of three snippets could not be saved. -/
def interrupted : Opened Storage :=
  let first := (Opened.call ⟨Storage.empty, ⟨[]⟩⟩ (.save "a" "x" .solidity)).1
  let second := ((first.during [.set]).call (.save "b" "y" .vyper)).1
  ((second.during [.get]).call (.save "c" "\"" .vyper)).1

theorem run_interrupted : interrupted.Run [⟨"a", "x", .solidity⟩, ⟨"c", "\"", .vyper⟩] := by
  have hLoad : Opened.Run ⟨Storage.empty, ⟨[]⟩⟩ [] := .load rfl
  have hFirst := hLoad.call (.save "a" "x" .solidity)
  have hSecond := (hFirst.during [.set]).call (.save "b" "y" .vyper)
  have hRun := (hSecond.during [.get]).call (.save "c" "\"" .vyper)
  have hList : interrupted.store.snippets = [⟨"a", "x", .solidity⟩, ⟨"c", "\"", .vyper⟩] := by decide
  rw [← hRun.agrees.2] at hRun
  exact hList ▸ hRun

/-- A write that fails between two that succeed loses only its own snippet. -/
theorem opened_refines_list_interrupted :
    interrupted.Run [⟨"a", "x", .solidity⟩, ⟨"c", "\"", .vyper⟩] ∧
      interrupted.store.snippets = [⟨"a", "x", .solidity⟩, ⟨"c", "\"", .vyper⟩] :=
  ⟨run_interrupted, (opened_refines_list run_interrupted).1⟩

end Runs

end AuditDesk.SnippetStore
