import AuditDesk.Files
import AuditDesk.Json.Decoder
import AuditDesk.Json.Printer
import AuditDesk.Storage
import AuditDesk.Storage.Location

/-!
Where a storage keeps its entries between runs: nowhere, or in a file. The file begins with a line of
its own and holds the entries as one JSON object; any other content but none at all is refused.
-/
namespace AuditDesk

inductive StorageSite where
  | memory
  | file (path : String)
deriving DecidableEq

namespace StorageSite

open Json

/-- The first line of every storage file. -/
def fileHeader : List UInt8 := Text.bytes "key-value store 1\n"

def encode (entries : List (String × String)) : List UInt8 :=
  fileHeader ++
    Text.bytes (Value.compact (.object (entries.map fun entry => (entry.1, .string entry.2))))

/-- The entries of a file; a file of less than two bytes has none. -/
def decode? (content : List UInt8) : Option (List (String × String)) :=
  if content.length < 2 then some []
  else if fileHeader.isPrefixOf content then
    match Reader.whole (Reader.value Reader.nestingLimit) (content.drop fileHeader.length) with
    | .ok (.object members) => members.mapM fun
        | (key, .string text) => some (key, text)
        | _ => none
    | _ => none
  else none

/-- The longest name of a file beside which there is room for a record of unfinished changes. -/
def nameLimit : Nat := 247

/-- Records entries in a file. -/
def record (location : Location) (place : Place) (entries : List (String × String)) (files : FileTree) :
    Except DatabaseFault (List (String × String) × FileTree) := do
  if location.access = .read then throw .readOnly
  if (place.getLastD "").utf8ByteSize > nameLimit then throw .cannotRecord
  return (entries, files.put place (.file (encode entries)))

/-- Opens a file, making it when it is missing. -/
def openFile (location : Location) (path : String) (files : FileTree) :
    Except DatabaseFault (List (String × String) × FileTree) := do
  let some place := location.place? files | throw (.cannotOpen path)
  let entries ←
    match files.node? place, files.node? place.up with
    | some (.file content), _ =>
        match decode? content with
        | some entries => pure entries
        | none => throw .notDatabase
    | none, some .directory => if location.access = .make then pure [] else throw (.cannotOpen path)
    | _, _ => throw (.cannotOpen path)
  record location place entries files

/-- Opens the storage, making its directory and file when they are missing. -/
def openStorage (site : StorageSite) (files : FileTree) : Except StorageError (Storage × FileTree) := do
  match site with
  | .memory => return (.empty, files)
  | .file path =>
      let parent := (Path.parent? path).getD ""
      let files ←
        match files.makeDirectories parent with
        | (.ok (), files) => pure files
        | (.error e, _) => throw (.directory parent e.message)
      let location ← (Location.ofPath path).mapError .database
      if location.isDetached then
        if location.access = .read then throw (.database .readOnly) else return (.empty, files)
      else
        let (entries, files) ← (openFile location path files).mapError .database
        return (⟨entries, []⟩, files)

/-- The files after the entries of a storage have been written back. -/
def writeBack (site : StorageSite) (s : Storage) (files : FileTree) : FileTree :=
  match site with
  | .memory => files
  | .file path =>
      match Location.ofPath path with
      | .error _ => files
      | .ok location =>
          match location.isDetached, location.place? files with
          | false, some place => files.put place (.file (encode s.entries))
          | _, _ => files

def name : StorageSite → String
  | .memory => ""
  | .file path => path

instance : StorageHost StorageSite FileTree Storage := ⟨name, openStorage, writeBack⟩

end StorageSite

end AuditDesk
