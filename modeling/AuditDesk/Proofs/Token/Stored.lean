import AuditDesk.Proofs.Settings.Spelled
import AuditDesk.Proofs.Snippets.Refinement
import AuditDesk.Token

/-! The token that calls leave in a storage in which snippets are kept as well. The last token saved that has not
been cleared counts, and no call on the one changes what is kept of the other. -/
namespace AuditDesk

open Json.Reader (toOption_eq_some)
open LawfulTextStorage
open Storage (snippetsKey tokenKey)

/-- A call that changes a storage. -/
inductive Edit where
  | saveToken (text : String)
  | clearToken
  /-- Snippets are saved or deleted, by any collection that was opened on the storage. -/
  | snippets (store : SnippetStore) (call : SnippetStore.Call)

namespace Edit

def isSnippets : Edit → Bool
  | .snippets _ _ => true
  | _ => false

/-- The text of the token after the call. -/
def token (before : Option String) : Edit → Option String
  | .saveToken text => some (Text.trim text)
  | .clearToken => none
  | .snippets _ _ => before

/-- The text of the snippets after the call; one that changes no list writes none. -/
def list (before : Option String) : Edit → Option String
  | .snippets store call =>
      if call.applied store.snippets = store.snippets then before
      else some (SnippetStore.encode (call.applied store.snippets))
  | _ => before

section Making

variable {σ : Type} [TextStorage σ]

/-- The storage after a call that did not fail. -/
def ofOutcome {α : Type} (out : SnippetStore.Outcome α σ) : Option σ := out.answer.toOption.map fun _ => out.storage

/-- The storage after the call, unless it fails. -/
def make (s : σ) : Edit → Option σ
  | .saveToken text => (Token.save s text).toOption
  | .clearToken => (Token.clear s).toOption
  | .snippets store (.save name code language) => ofOutcome (store.save s name code language)
  | .snippets store (.delete index) => ofOutcome (store.delete s index)

theorem storage_of_persist {α : Type} {s next : σ} {store : SnippetStore} {updated : List Snippet} {answer : α}
    (h : ofOutcome (store.persist s updated answer) = some next) :
    TextStorage.set s snippetsKey (SnippetStore.encode updated) = .ok next := by
  cases hSet : TextStorage.set s snippetsKey (SnippetStore.encode updated) with
  | error e =>
      rw [SnippetStore.persist_of_failed store answer hSet] at h
      cases h
  | ok written =>
      rw [SnippetStore.persist_of_done store answer hSet] at h
      exact congrArg _ (Option.some.inj h)

/-- A call on snippets that goes well leaves the storage alone or writes the list that it made. -/
theorem make_snippets {s next : σ} {store : SnippetStore} {call : SnippetStore.Call}
    (h : (Edit.snippets store call).make s = some next) :
    (next = s ∧ call.applied store.snippets = store.snippets) ∨
      (call.applied store.snippets ≠ store.snippets ∧
        TextStorage.set s snippetsKey (SnippetStore.encode (call.applied store.snippets)) = .ok next) := by
  cases call with
  | save name code language =>
      simp only [make, SnippetStore.Call.applied] at h ⊢
      by_cases hBlank : Text.trim name = "" ∨ Text.trim code = ""
      · rw [SnippetStore.save_of_blank _ _ language hBlank] at h
        exact .inl ⟨(Option.some.inj h).symm, if_pos hBlank⟩
      · obtain ⟨hName, hCode⟩ := not_or.mp hBlank
        rw [SnippetStore.save_of_filled _ _ language hName hCode] at h
        rw [if_neg hBlank]
        exact .inr ⟨by simp, storage_of_persist h⟩
  | delete index =>
      simp only [make, SnippetStore.Call.applied] at h ⊢
      cases hFound : store.snippets[index]? with
      | none =>
          have hAbsent : store.size ≤ index := List.getElem?_eq_none_iff.mp hFound
          rw [SnippetStore.delete_of_absent _ _ hAbsent] at h
          exact .inl ⟨(Option.some.inj h).symm, List.eraseIdx_of_length_le hAbsent⟩
      | some found =>
          have hPresent : index < store.snippets.length := (List.getElem?_eq_some_iff.mp hFound).1
          rw [SnippetStore.delete_of_present _ _ hFound] at h
          refine .inr ⟨fun hSame => ?_, storage_of_persist h⟩
          have hLength := congrArg List.length hSame
          rw [List.length_eraseIdx_of_lt hPresent] at hLength
          omega

variable [LawfulTextStorage σ] {s next : σ} {e : Edit}

theorem kept_token (h : e.make s = some next) : kept next tokenKey = e.token (kept s tokenKey) := by
  have hApart : tokenKey ≠ snippetsKey := by decide
  cases e with
  | saveToken text => rw [kept_set (toOption_eq_some.mp h), if_pos rfl, token]
  | clearToken => rw [kept_remove (toOption_eq_some.mp h), if_pos rfl, token]
  | snippets store call =>
      rcases make_snippets h with ⟨rfl, -⟩ | ⟨-, hSet⟩
      · rfl
      · rw [kept_set hSet, if_neg hApart, token]

theorem kept_snippets (h : e.make s = some next) : kept next snippetsKey = e.list (kept s snippetsKey) := by
  have hApart : snippetsKey ≠ tokenKey := by decide
  cases e with
  | saveToken text =>
      rw [kept_set (toOption_eq_some.mp h), if_neg hApart]
      rfl
  | clearToken =>
      rw [kept_remove (toOption_eq_some.mp h), if_neg hApart]
      rfl
  | snippets store call =>
      rcases make_snippets h with ⟨rfl, hSame⟩ | ⟨hChanged, hSet⟩
      · rw [list, if_pos hSame]
      · rw [kept_set hSet, if_pos rfl, list, if_neg hChanged]

end Making

section Runs

variable {σ : Type} [TextStorage σ] [LawfulTextStorage σ] {first last : σ} {edits : List Edit}

/-- What every call leaves of a text adds up to what all of them leave. -/
theorem kept_run {key : String} {after : Option String → Edit → Option String}
    (hStep : ∀ {s next : σ} {e}, e.make s = some next → kept next key = after (kept s key) e)
    (h : edits.foldlM make first = some last) : kept last key = edits.foldl after (kept first key) := by
  induction edits generalizing first with
  | nil =>
      obtain rfl := Option.some.inj h
      rfl
  | cons e edits ih =>
      obtain ⟨next, hNext, hRest⟩ := Option.bind_eq_some_iff.mp h
      rw [ih hRest, List.foldl_cons, hStep hNext]

theorem foldl_filter_of {p : Edit → Bool} {after : Option String → Edit → Option String}
    (h : ∀ before e, p e = false → after before e = before) (before : Option String) :
    (edits.filter p).foldl after before = edits.foldl after before := by
  induction edits generalizing before with
  | nil => rfl
  | cons e edits ih =>
      cases hOwn : p e with
      | true => rw [List.filter_cons_of_pos hOwn, List.foldl_cons, List.foldl_cons, ih]
      | false => rw [List.filter_cons_of_neg (Bool.eq_false_iff.mp hOwn), ih, List.foldl_cons, h before e hOwn]

/-- What is kept of the token depends on the calls on the token alone, and what is kept of the snippets on
the other calls alone. -/
structure Apart (first last : σ) (edits : List Edit) : Prop where
  token : kept last tokenKey = (edits.filter fun e => !e.isSnippets).foldl Edit.token (kept first tokenKey)
  list : kept last snippetsKey = (edits.filter isSnippets).foldl Edit.list (kept first snippetsKey)

theorem apart_run (h : edits.foldlM make first = some last) : Apart first last edits where
  token := by
    rw [kept_run kept_token h, foldl_filter_of]
    intro before e hSnippets
    cases e with
    | snippets store call => rfl
    | _ => cases hSnippets
  list := by
    rw [kept_run kept_snippets h, foldl_filter_of]
    intro before e hSnippets
    cases e with
    | snippets store call => cases hSnippets
    | _ => rfl

end Runs

end Edit

/-- The text that is stored as a token after the calls, unless it is blank; before them there was another one. -/
inductive StoredToken (before : Option String) (edits : List Edit) : String → Prop
  | saved {front back : List Edit} {text : String} (hEdits : edits = front ++ .saveToken text :: back)
      (hBack : ∀ e ∈ back, e.isSnippets = true) (hFilled : Text.trim text ≠ "") : StoredToken before edits (Text.trim text)
  | before {text : String} (hBefore : before = some text) (hEdits : ∀ e ∈ edits, e.isSnippets = true)
      (hFilled : Text.trim text ≠ "") : StoredToken before edits text

namespace StoredToken

theorem trim_trim_ne {text : String} (h : Text.trim text ≠ "") : Text.trim (Text.trim text) ≠ "" := by
  intro hBlank
  rw [Ne, Text.trim_eq_empty_iff] at h
  rw [Text.trim_eq_empty_iff, Text.allBlank, Text.toList_trim, List.all_eq_true] at hBlank
  obtain ⟨front, back, hText, hFront, hBack⟩ := Config.exists_trimChars text.toList
  refine h (List.all_eq_true.mpr fun c hMem => ?_)
  rw [hText, List.mem_append, List.mem_append] at hMem
  rcases hMem with (hMem | hMem) | hMem
  · exact hFront c hMem
  · exact hBlank c hMem
  · exact hBack c hMem

theorem nil_iff {before : Option String} {text : String} :
    StoredToken before [] text ↔ before = some text ∧ Text.trim text ≠ "" := by
  constructor
  · rintro (⟨hEdits, -, -⟩ | ⟨hBefore, -, hFilled⟩)
    · simp at hEdits
    · exact ⟨hBefore, hFilled⟩
  · rintro ⟨hBefore, hFilled⟩
    exact .before hBefore (by simp) hFilled

theorem cons_iff {before : Option String} {e : Edit} {edits : List Edit} {text : String} :
    StoredToken before (e :: edits) text ↔ StoredToken (e.token before) edits text := by
  constructor
  · intro h
    cases h with
    | @saved front back text hEdits hBack hFilled =>
        cases front with
        | nil =>
            obtain ⟨rfl, rfl⟩ := List.cons.inj hEdits
            exact .before rfl hBack (trim_trim_ne hFilled)
        | cons other front =>
            obtain ⟨rfl, rfl⟩ := List.cons.inj hEdits
            exact .saved rfl hBack hFilled
    | before hBefore hEdits hFilled =>
        obtain ⟨hFirst, hRest⟩ := List.forall_mem_cons.mp hEdits
        cases e with
        | snippets store call => exact .before hBefore hRest hFilled
        | saveToken text => cases hFirst
        | clearToken => cases hFirst
  · intro h
    cases h with
    | @saved front back text hEdits hBack hFilled =>
        exact @saved _ _ (e :: front) back text (congrArg (e :: ·) hEdits) hBack hFilled
    | before hBefore hEdits hFilled =>
        cases e with
        | snippets store call => exact .before hBefore (List.forall_mem_cons.mpr ⟨rfl, hEdits⟩) hFilled
        | saveToken text =>
            obtain rfl := Option.some.inj hBefore
            refine @saved _ _ [] edits text rfl hEdits fun hBlank => hFilled ?_
            rw [hBlank]
            rfl
        | clearToken => cases hBefore

/-- What is kept under the key of the token, if it is not blank. -/
theorem iff_foldl {before : Option String} {edits : List Edit} {text : String} :
    StoredToken before edits text ↔ edits.foldl Edit.token before = some text ∧ Text.trim text ≠ "" := by
  induction edits generalizing before with
  | nil => exact nil_iff
  | cons e edits ih => rw [cons_iff, ih, List.foldl_cons]

end StoredToken

end AuditDesk
