import AuditDesk.Csv
import AuditDesk.Files
import AuditDesk.Language
import AuditDesk.Service.Failure
import AuditDesk.Wire

/-!
Reports as files.
-/
namespace AuditDesk

/-- A file that is ready to be written. -/
structure Artifact where
  fileName : String
  mimeType : String
  content : List UInt8
deriving DecidableEq

inductive ExportError where
  | noReport
  | unsupported (e : NameError)
  /-- The directory or the file could not be written. -/
  | unwritable (path : String) (e : FileError)
  /-- The service did not make the file. -/
  | remote (e : Service.NetworkError)
deriving DecidableEq

namespace ExportError

def message : ExportError → String
  | .noReport => "There is no analysis result to export"
  | .unsupported e => e.message
  | .unwritable path e => "Could not write " ++ path ++ ": " ++ e.message
  | .remote e => "Remote export failed: " ++ e.message

/-- The messages of the error and of what is behind it, outermost first. -/
def chain (error : ExportError) : List String :=
  match error with
  | .noReport | .unsupported _ => [error.message]
  | .unwritable _ e => [error.message, e.message]
  | .remote e => error.message :: e.chain

end ExportError

namespace Artifact

/-- The artifact with the name and type that go with a format. -/
def ofContent (format : ExportFormat) (content : List UInt8) : Artifact :=
  ⟨format.fileName, format.mimeType, content⟩

def text (format : ExportFormat) (r : Report) : String :=
  match format with
  | .csv => Csv.ofReport r
  | .json => (Wire.ofReport r).pretty

def ofReport (format : ExportFormat) (r : Report) : Artifact :=
  ofContent format (Text.bytes (text format r))

/-- Exports a report if there is one. -/
def ofReport? (format : ExportFormat) (r? : Option Report) : Except ExportError Artifact :=
  match r? with
  | some r => .ok (ofReport format r)
  | none => .error .noReport

/-- Exports a report if there is one; the name of the format is looked at first. -/
def ofNamed (formatName : String) (r? : Option Report) : Except ExportError Artifact := do
  let format ← (ExportFormat.ofName formatName).mapError .unsupported
  ofReport? format r?

/-- Writes the artifact under its name into a directory, which is made if it is missing, and answers
the path of the file. -/
def writeTo (a : Artifact) (files : FileTree) (directory : String) :
    Except ExportError String × FileTree :=
  match files.makeDirectories directory with
  | (.error e, files) => (.error (.unwritable directory e), files)
  | (.ok (), files) =>
      let path := Path.join directory a.fileName
      match files.write path a.content with
      | .error e => (.error (.unwritable path e), files)
      | .ok files => (.ok path, files)

end Artifact

end AuditDesk
