import AuditDesk.Storage
import AuditDesk.Text.Blank

/-!
The token that identifies the user to the service. One in the environment goes before a stored one.
-/
namespace AuditDesk

inductive TokenSource where
  | environment
  | stored
deriving DecidableEq

def TokenSource.name : TokenSource → String
  | .environment => "environment"
  | .stored => "stored"

namespace Token

variable {σ : Type} [TextStorage σ]

/-- A blank stored token counts as none. -/
def load (s : σ) : Except StorageError (Option String) := do
  return (← TextStorage.get s Storage.tokenKey).filter fun token => !Text.allBlank token

def save (s : σ) (token : String) : Except StorageError σ :=
  TextStorage.set s Storage.tokenKey (Text.trim token)

def clear (s : σ) : Except StorageError σ := TextStorage.remove s Storage.tokenKey

/-- The token in use and where it comes from. -/
def effective (environment : Option String) (s : σ) :
    Except StorageError (Option (String × TokenSource)) :=
  match environment.filter fun token => !Text.allBlank token with
  | some token => .ok (some (token, .environment))
  | none => do return (← load s).map (·, .stored)

/-- The number of characters of a token that are shown. -/
def shownLength : Nat := 4

/-- Stars in place of all characters but the last four; a token of at most four is hidden whole. -/
def mask (token : String) : String :=
  if token.length ≤ shownLength then Text.repeated token.length '*'
  else
    let hidden := token.length - shownLength
    Text.repeated hidden '*' ++ String.ofList (token.toList.drop hidden)

end Token

end AuditDesk
