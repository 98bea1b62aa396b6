import AuditDesk.Storage
import AuditDesk.Wire

/-!
The collection of saved snippets, kept in a storage as one JSON array. The list in memory and the
array stay the same: when writing fails, the list is as it was before.
-/
namespace AuditDesk

inductive StoreError where
  | corrupt (failure : Json.Failure)
  | storage (e : StorageError)

def StoreError.message : StoreError → String
  | .corrupt failure =>
      "Saved snippets are corrupt and could not be read: " ++ failure.message
  | .storage e => e.message

/-- The messages of the error and of what is behind it. -/
def StoreError.chain : StoreError → List String
  | .corrupt failure => [(StoreError.corrupt failure).message, failure.message]
  | .storage e => e.chain

structure SnippetStore where
  snippets : List Snippet
deriving DecidableEq

namespace SnippetStore

/-- The list that a stored text holds. -/
def decode (raw : String) : Except StoreError (List Snippet) :=
  (Wire.snippets.ofText raw).mapError .corrupt

def encode (snippets : List Snippet) : String := (Wire.ofSnippets snippets).compact

/-- What an operation answers, and the storage and list it leaves. -/
structure Outcome (α : Type) (σ : Type := Storage) where
  answer : Except StoreError α
  storage : σ
  store : SnippetStore

variable {σ : Type} [TextStorage σ]

/-- The stored list; nothing stored is an empty one. -/
def read (s : σ) : Except StoreError (List Snippet) := do
  match ← (TextStorage.get s Storage.snippetsKey).mapError .storage with
  | some raw => decode raw
  | none => return []

def load (s : σ) : Except StoreError SnippetStore := do return ⟨← read s⟩

/-- Opens with an empty list when the stored one cannot be read, and says why. -/
def openOrDefault (s : σ) : SnippetStore × Option StoreError :=
  match read s with
  | .ok snippets => (⟨snippets⟩, none)
  | .error e => (⟨[]⟩, some e)

def size (store : SnippetStore) : Nat := store.snippets.length

def get? (store : SnippetStore) (index : Nat) : Option Snippet := store.snippets[index]?

/-- Replaces the list, in the storage first; nothing changes when that fails. -/
def persist {α : Type} (store : SnippetStore) (s : σ) (updated : List Snippet) (answer : α) :
    Outcome α σ :=
  match TextStorage.set s Storage.snippetsKey (encode updated) with
  | .ok s => ⟨.ok answer, s, ⟨updated⟩⟩
  | .error e => ⟨.error (.storage e), s, store⟩

/-- Adds a snippet at the end. A blank name or code is refused: the answer is false. -/
def save (store : SnippetStore) (s : σ) (name code : String) (language : Language) :
    Outcome Bool σ :=
  if Text.allBlank name || Text.allBlank code then ⟨.ok false, s, store⟩
  else store.persist s (store.snippets ++ [⟨name, code, language⟩]) true

/-- Removes the snippet at a position and answers it; outside the list there is nothing to remove. -/
def delete (store : SnippetStore) (s : σ) (index : Nat) : Outcome (Option Snippet) σ :=
  match store.get? index with
  | none => ⟨.ok none, s, store⟩
  | some removed => store.persist s (store.snippets.eraseIdx index) (some removed)

end SnippetStore

end AuditDesk
