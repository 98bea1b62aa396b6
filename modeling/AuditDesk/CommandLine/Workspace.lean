import AuditDesk.CommandLine.Failure
import AuditDesk.CommandLine.Output
import AuditDesk.Service.Client
import AuditDesk.Setup

/-!
What a command works with, and steps on it. A step may end the command: with an error, or because the
service never answers. What has been done and printed until then stays.
-/
namespace AuditDesk.CommandLine

structure Workspace where
  setup : Setup
  client : Service.Client
  files : FileTree
  /-- What the standard input holds. -/
  input : List UInt8
  output : Output

/-- Why a command does not come to its end. -/
inductive Interruption where
  | failed (e : CommandError)
  /-- The service never answers. -/
  | waiting

abbrev Step := ExceptT Interruption (StateM Workspace)

namespace Workspace

def start (setup : Setup) (files : FileTree) (clock : Clock) : Workspace :=
  ⟨setup, .ofBackend setup.backend setup.config.policy clock, files, [], .empty⟩

end Workspace

namespace Step

def fail {α : Type} (e : CommandError) : Step α := throw (.failed e)

/-- Goes on with a result or ends with its error. -/
def ofExcept {ε α : Type} (error : ε → CommandError) : Except ε α → Step α
  | .ok a => pure a
  | .error e => fail (error e)

def print (f : Output → Output) : Step Unit := modify fun w => { w with output := f w.output }

/-- Asks the service and waits for its answer. -/
def ask {α : Type} (question : Service.Client → Option α × Service.Client) : Step α := do
  let w ← get
  let (answer, client) := question w.client
  set { w with client := client }
  match answer with
  | some a => pure a
  | none => throw .waiting

/-- Replaces the storage, also where it is kept between runs. -/
def store (storage : Storage) : Step Unit :=
  modify fun w =>
    { w with
      setup := { w.setup with storage := storage }
      files := w.setup.site.writeBack storage w.files }

/-- Changes the saved snippets. -/
def changeSnippets {α : Type} (change : SnippetStore → Storage → SnippetStore.Outcome α) : Step α := do
  let w ← get
  let outcome := change w.setup.store w.setup.storage
  set { w with setup := { w.setup with store := outcome.store } }
  store outcome.storage
  ofExcept .snippets outcome.answer

def readSource (path : String) : Step Source := do
  let w ← get
  ofExcept .source (Source.read w.files w.input path)

/-- Writes an artifact into the directory asked for or else the usual one. -/
def write (artifact : Artifact) (out : Option String) : Step Unit := do
  let w ← get
  let (written, files) := artifact.writeTo w.files (out.getD w.setup.config.exportDir)
  set { w with files := files }
  let path ← ofExcept .exported written
  print (·.saved path)

end Step

end AuditDesk.CommandLine
