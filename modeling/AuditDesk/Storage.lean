import AuditDesk.Storage.Fault

/-!
Storages of texts under keys. The one that is kept in memory can be made to fail in each of its three
operations; one that fails changes nothing.
-/
namespace AuditDesk

/-- The operations of a storage. -/
inductive StorageAccess where
  | get
  | set
  | remove
deriving DecidableEq

/-- What an operation on a storage, or opening one, may come to. -/
inductive StorageError where
  /-- The operation was refused. -/
  | poisoned
  /-- The directory of the file could not be made. -/
  | directory (path : String) (cause : String)
  | database (fault : DatabaseFault)
deriving DecidableEq

namespace StorageError

def message : StorageError → String
  | .poisoned => "Storage lock poisoned"
  | .directory path cause => "Could not prepare storage directory " ++ path ++ ": " ++ cause
  | .database fault => "Storage database error: " ++ fault.text

/-- The messages of the error and of what is behind it, outermost first. -/
def chain (e : StorageError) : List String :=
  match e with
  | .poisoned => [e.message]
  | .directory _ cause => [e.message, cause]
  | .database fault => [e.message, fault.text, fault.cause]

end StorageError

/-- Whatever keeps texts under keys. It changes only when an operation succeeds. -/
class TextStorage (σ : Type) where
  get : σ → String → Except StorageError (Option String)
  set : σ → String → String → Except StorageError σ
  remove : σ → String → Except StorageError σ

/-- A storage that behaves as a map from keys to texts. Any of its operations may fail at any time. -/
class LawfulTextStorage (σ : Type) [TextStorage σ] where
  /-- What is kept under a key, whether or not it can be read at present. -/
  kept : σ → String → Option String
  kept_of_get : ∀ {s : σ} {key : String} {found : Option String},
    TextStorage.get s key = .ok found → kept s key = found
  kept_set : ∀ {s next : σ} {key value : String}, TextStorage.set s key value = .ok next →
    ∀ other, kept next other = if other = key then some value else kept s other
  kept_remove : ∀ {s next : σ} {key : String}, TextStorage.remove s key = .ok next →
    ∀ other, kept next other = if other = key then none else kept s other

/-- Sites at which storages are kept between runs. What surrounds them, such as the files of a computer, may
change when a storage is opened and when it is written back. -/
class StorageHost (κ : Type) (ω σ : outParam Type) where
  /-- What a site is called when its storage cannot be opened. -/
  name : κ → String
  openAt : κ → ω → Except StorageError (σ × ω)
  /-- The surroundings after the texts of a storage have been written back. -/
  writeBack : κ → σ → ω → ω

/-- Sites that may last. What is opened again there is what was kept. -/
class LawfulStorageHost (κ : Type) {ω σ : outParam Type} [TextStorage σ] [LawfulTextStorage σ]
    [StorageHost κ ω σ] where
  /-- The site keeps what is written back to it. -/
  Lasts : κ → Prop
  /-- A storage can be read when it has just been opened. -/
  get_opened : ∀ {site : κ} {around made : ω} {s : σ}, StorageHost.openAt site around = .ok (s, made) →
    ∀ key, TextStorage.get s key = .ok (LawfulTextStorage.kept s key)
  reopened : ∀ {site : κ} {around made : ω} {first : σ}, Lasts site →
    StorageHost.openAt site around = .ok (first, made) → ∀ last : σ,
      ∃ again remade, StorageHost.openAt site (StorageHost.writeBack site last made) = .ok (again, remade) ∧
        ∀ key, LawfulTextStorage.kept again key = LawfulTextStorage.kept last key

structure Storage where
  /-- The texts under their keys, the newest first; of equal keys the first one counts. -/
  entries : List (String × String)
  /-- The operations that fail. -/
  failing : List StorageAccess
deriving DecidableEq

namespace Storage

def empty : Storage := ⟨[], []⟩

def fails (s : Storage) (access : StorageAccess) : Bool := s.failing.contains access

/-- What is kept under a key, whether or not it can be read at present. -/
def kept (s : Storage) (key : String) : Option String := s.entries.lookup key

def get (s : Storage) (key : String) : Except StorageError (Option String) :=
  if s.fails .get then .error .poisoned else .ok (s.kept key)

def erased (entries : List (String × String)) (key : String) : List (String × String) :=
  entries.filter fun entry => entry.1 ≠ key

def set (s : Storage) (key value : String) : Except StorageError Storage :=
  if s.fails .set then .error .poisoned
  else .ok { s with entries := (key, value) :: erased s.entries key }

def remove (s : Storage) (key : String) : Except StorageError Storage :=
  if s.fails .remove then .error .poisoned
  else .ok { s with entries := erased s.entries key }

theorem lookup_entry (name text : String) (rest : List (String × String)) (key : String) :
    ((name, text) :: rest).lookup key = if key = name then some text else rest.lookup key := by
  rw [List.lookup_cons]
  by_cases hName : key = name
  · rw [if_pos hName, beq_iff_eq.mpr hName]
  · rw [if_neg hName, beq_eq_false_iff_ne.mpr hName]

theorem lookup_erased (entries : List (String × String)) (key other : String) :
    (erased entries key).lookup other = if other = key then none else entries.lookup other := by
  induction entries with
  | nil => exact (ite_self none).symm
  | cons entry rest ih =>
      obtain ⟨name, text⟩ := entry
      simp only [erased] at ih ⊢
      by_cases hName : name = key
      · subst hName
        rw [List.filter_cons_of_neg (by simp), ih, lookup_entry]
        split <;> rfl
      · rw [List.filter_cons_of_pos (by simpa using hName), lookup_entry, lookup_entry, ih]
        by_cases hOther : other = name
        · subst hOther
          rw [if_pos rfl, if_pos rfl, if_neg hName]
        · rw [if_neg hOther, if_neg hOther]

instance : TextStorage Storage := ⟨Storage.get, Storage.set, Storage.remove⟩

instance : LawfulTextStorage Storage where
  kept := kept
  kept_of_get := by
    intro s key found hGet
    simp only [TextStorage.get, get] at hGet
    split at hGet
    · cases hGet
    · exact Except.ok.inj hGet
  kept_set := by
    intro s next key value hSet other
    simp only [TextStorage.set, set] at hSet
    split at hSet
    · cases hSet
    · cases hSet
      rw [kept, lookup_entry, lookup_erased]
      split <;> rfl
  kept_remove := by
    intro s next key hRemove other
    simp only [TextStorage.remove, remove] at hRemove
    split at hRemove
    · cases hRemove
    · cases hRemove
      exact lookup_erased s.entries key other

/-- The key of the saved snippets. -/
def snippetsKey : String := "saved_snippets"

/-- The key of the service token. -/
def tokenKey : String := "auth_token"

/-- The version of the storage's own layout. -/
def layoutVersion : Nat := 1

end Storage

end AuditDesk
