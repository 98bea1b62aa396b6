import AuditDesk.Files
import AuditDesk.Storage.Fault
import AuditDesk.Text.Percent

/-!
Where the file of a storage lies. A path that begins with `file:` is an address: a host that can only be
this one, a path in which percent signs stand for bytes, and options behind a question mark. Any other
path is taken as it is. The empty path and `:memory:` name no file at all.
-/
namespace AuditDesk

open Text

/-- What may be done to a file. -/
inductive FileAccess where
  | read
  | write
  /-- A missing file is made. -/
  | make
  /-- The storage is kept nowhere. -/
  | detached
deriving DecidableEq

namespace FileAccess

def named : List (String × FileAccess) :=
  [("ro", .read), ("rw", .write), ("rwc", .make), ("memory", .detached)]

/-- The place of an access in the order by which a later option is checked against an earlier one. -/
def rank : FileAccess → Nat
  | .read => 1
  | .write => 2
  | .make => 6
  | .detached => 128

/-- Changes the access by an option; only `detached` may follow everything. -/
def narrowed (access : FileAccess) (word : String) : Except DatabaseFault FileAccess :=
  match named.lookup word with
  | none => .error (.unknownMode "access" word)
  | some asked =>
      if asked ≠ .detached && access.rank < asked.rank then .error (.forbiddenMode "access" word)
      else .ok asked

end FileAccess

structure Location where
  path : String
  access : FileAccess
deriving DecidableEq

namespace Location

/-- The text that decoded bytes denote; it ends before a zero byte. -/
def decoded (cs : List Char) : String :=
  ofBytesLossy ((Percent.decode cs).takeWhile (· ≠ 0))

/-- Splits a text before the first occurrence of a character. -/
def before (mark : Char) (cs : List Char) : List Char × List Char :=
  (cs.takeWhile (· ≠ mark), (cs.dropWhile (· ≠ mark)).drop 1)

/-- The name and the value of an option. -/
def option (cs : List Char) : String × String :=
  let (name, value) := before '=' cs
  (decoded name, decoded value)

/-- The file systems that can be named. -/
def fileSystems : List String := ["unix", "unix-none", "unix-dotfile", "unix-excl"]

/-- Takes an option into account; those that are not known count for nothing. -/
def withOption (location : Location) (option : String × String) : Except DatabaseFault Location :=
  match option with
  | ("mode", word) => do return { location with access := ← location.access.narrowed word }
  | ("cache", word) =>
      if word = "shared" || word = "private" then .ok location
      else .error (.unknownMode "cache" word)
  | _ => .ok location

/-- Reads what follows `file:`. -/
def ofAddress (cs : List Char) : Except DatabaseFault Location := do
  let cs ←
    match cs with
    | '/' :: '/' :: rest =>
        let host := String.ofList (rest.takeWhile (· ≠ '/'))
        if host = "" || host = "localhost" then pure (rest.dropWhile (· ≠ '/'))
        else throw (.unknownHost host)
    | _ => pure cs
  let (path, query) := before '?' (before '#' cs).1
  let options := (query.splitOn '&').map option
    |>.filter fun option => option.1 ≠ ""
  let location ← options.foldlM withOption ⟨decoded path, .make⟩
  match options.reverse.lookup "vfs" with
  | some name =>
      if fileSystems.contains name then return location else throw (.unknownFileSystem name)
  | none => return location

/-- Reads a path. -/
def ofPath (path : String) : Except DatabaseFault Location :=
  match path.toList.findIdx? (· = '\x00'), path.toList with
  | some _, _ => .error (.nulByte (bytes path |>.takeWhile (· ≠ 0)).length)
  | none, 'f' :: 'i' :: 'l' :: 'e' :: ':' :: rest => ofAddress rest
  | none, _ => .ok ⟨path, .make⟩

/-- Whether no file is named. -/
def isDetached (location : Location) : Bool :=
  location.access = .detached || location.path = "" || location.path = ":memory:"

/-- The longest path that is followed, in bytes; room is left for the working directory. -/
def pathLimit : Nat := 488

/-- The place of the file. Two dots take back the name before them, whether or not it exists; but
nothing is looked for below a file. -/
def place? (location : Location) (t : FileTree) : Option Place := do
  let names := Path.parts location.path
  let base := if names.head? = some "" then Place.root else []
  let place ← names.foldlM (fun place name =>
    if name = "" || name = "." then some place
    else if name = ".." then some place.up
    else if name.utf8ByteSize > FileTree.nameLimit then none
    else
      match t.node? place with
      | some .directory | none => some (place ++ [name])
      | some _ => none) base
  if place.path.utf8ByteSize > pathLimit then none else some place

end Location

end AuditDesk
