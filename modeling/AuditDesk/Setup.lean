import AuditDesk.Config
import AuditDesk.Service.Backend
import AuditDesk.SnippetStore
import AuditDesk.Storage.Site
import AuditDesk.Token

/-!
What the front ends work with: the settings, the service, the storage and the snippets in it.
-/
namespace AuditDesk

open Service

inductive SetupError where
  | storage (path : String) (e : StorageError)
  | token (e : StorageError)
deriving DecidableEq

namespace SetupError

/-- The messages of the error and of what is behind it, outermost first. -/
def chain : SetupError → List String
  | .storage path e => ("Failed to open storage at " ++ path) :: e.chain
  | .token e => "Failed to read stored token" :: e.chain

def message (e : SetupError) : String := ": ".intercalate e.chain

end SetupError

structure Setup (κ : Type := StorageSite) (σ : Type := Storage) where
  config : Config
  backend : Backend
  site : κ
  storage : σ
  store : SnippetStore
  /-- Where the token in use comes from. -/
  tokenSource : Option TokenSource
  /-- What went wrong, but not so badly that work could not begin. -/
  warnings : List String

namespace Setup

def warning (e : StoreError) : String := e.message ++ ". Starting with no saved snippets."

/-- Snippets that cannot be read are left out, with a warning. -/
def ofParts {κ σ : Type} [TextStorage σ] (config : Config) (site : κ) (storage : σ) (backend : Backend) :
    Setup κ σ :=
  let (store, error) := SnippetStore.openOrDefault storage
  { config := config, backend := backend, site := site, storage := storage, store := store
    tokenSource := none, warnings := (error.map warning).toList }

/-- The site of the storage; nothing is kept by a run that asks for that. -/
def siteOf (config : Config) (platformDir : String) : StorageSite :=
  if config.ephemeral then .memory
  else .file (Path.join (config.dataDir.getD platformDir) Config.databaseName)

/-- What services are made from: the network, and the number of identifiers that simulated ones have
handed out before. -/
structure Supply where
  network : HttpRequest → Option HttpResponse
  issued : Nat

/-- The service that the settings ask for. -/
def backendOf (config : Config) (token : Option String) (supply : Supply) : Backend :=
  if config.offline then
    .simulated { Simulation.start Simulation.standardDelay none with issued := supply.issued }
  else .remote (.ofParts config.apiUrl token) supply.network

/-- Opens the storage at a site and chooses the service; the token is the one of the environment or,
failing that, the stored one. -/
def buildAt {κ ω σ : Type} [TextStorage σ] [StorageHost κ ω σ] (config : Config) (site : κ) (supply : Supply)
    (around : ω) : Except SetupError (Setup κ σ × ω) := do
  let (storage, around) ← (StorageHost.openAt site around).mapError (.storage (StorageHost.name site))
  let token ← (Token.effective config.apiToken storage).mapError .token
  let setup := ofParts config site storage (backendOf config (token.map Prod.fst) supply)
  return ({ setup with tokenSource := token.map Prod.snd }, around)

/-- Opens the storage at the site that the settings ask for. -/
def build (config : Config) (platformDir : String) (supply : Supply) (files : FileTree) :
    Except SetupError (Setup × FileTree) :=
  buildAt config (siteOf config platformDir) supply files

end Setup

end AuditDesk
