import AuditDesk.Text.Utf8

/-!
Files and directories as seen from a working directory, and paths that lead to them. A path is resolved
component by component, every one but the last being a directory that exists.
-/
namespace AuditDesk

/-- Why the file system refuses. -/
inductive FileError where
  | notFound
  | alreadyExists
  | notDirectory
  | isDirectory
  | nameTooLong
  | nulByte
  | notText
deriving DecidableEq

def FileError.message : FileError → String
  | .notFound => "No such file or directory (os error 2)"
  | .alreadyExists => "File exists (os error 17)"
  | .notDirectory => "Not a directory (os error 20)"
  | .isDirectory => "Is a directory (os error 21)"
  | .nameTooLong => "File name too long (os error 36)"
  | .nulByte => "file name contained an unexpected NUL byte"
  | .notText => "stream did not contain valid UTF-8"

namespace Path

/-- The texts between the slashes. -/
def parts (path : String) : List String := (path.toList.splitOn '/').map String.ofList

/-- The parts that lead somewhere; empty ones and single dots in the middle count for nothing. -/
def components (path : String) : List String :=
  match parts path with
  | [] => []
  | first :: rest =>
      let kept := rest.filter fun part => part ≠ "" && part ≠ "."
      if path = "" then []
      else if first = "" then "/" :: kept
      else first :: kept

/-- Whether two paths have the same components. -/
def same (a b : String) : Bool := components a == components b

/-- The last component, unless it leads upwards or nowhere. -/
def fileName? (path : String) : Option String :=
  match (components path).getLast? with
  | some name => if name = "." || name = ".." || name = "/" then none else some name
  | none => none

/-- What follows the last dot of the file name, if something precedes it. -/
def extension? (path : String) : Option String :=
  match fileName? path with
  | none => none
  | some name =>
      let reversed := name.toList.reverse
      let after := reversed.takeWhile (· ≠ '.')
      match reversed.dropWhile (· ≠ '.') with
      | [] => none
      | [_] => none
      | _ => some (String.ofList after.reverse)

/-- A path below a directory. -/
def join (directory name : String) : String :=
  if directory = "" then name
  else if directory.toList.getLast? = some '/' then directory ++ name
  else directory ++ "/" ++ name

/-- The slash or the single dot that a path begins with, and the parts between the slashes behind it. -/
def opened (path : String) : String × List String :=
  match path.toList with
  | '/' :: rest => ("/", parts (String.ofList rest))
  | ['.'] => (".", [])
  | '.' :: '/' :: rest => (".", parts ("/" ++ String.ofList rest))
  | _ => ("", parts path)

/-- Empty parts and single dots at the end lead nowhere. -/
def trimmed (parts : List String) : List String :=
  (parts.reverse.dropWhile fun part => part = "" || part = ".").reverse

/-- The path without its last component, as it is written; the root and the empty path have none. -/
def parent? (path : String) : Option String :=
  let (opening, parts) := opened path
  match trimmed parts with
  | [] => if opening = "." then some "" else none
  | parts => some (opening ++ "/".intercalate (trimmed parts.dropLast))

end Path

inductive FileNode where
  | file (content : List UInt8)
  /-- A device that reads as empty and forgets what is written to it. -/
  | sink
  | directory
deriving DecidableEq

/-- The names that lead to a file or directory: from the working directory, or, behind a slash, from the
root; two dots at the start lead above the working directory. -/
abbrev Place := List String

namespace Place

def root : Place := ["/"]

/-- The directories that every system has just below its root. -/
def systemNames : List String :=
  ["bin", "boot", "dev", "etc", "home", "lib", "media", "mnt", "opt", "proc", "root", "run", "sbin",
    "srv", "sys", "tmp", "usr", "var"]

/-- What is there without having been made: the working directory, those above it, the root, and a few
places below the root. -/
def standing? (place : Place) : Option FileNode :=
  match place with
  | ["/"] => some .directory
  | ["/", "dev", "null"] => some .sink
  | ["/", name] => if systemNames.contains name then some .directory else none
  | _ => if place.all (· = "..") then some .directory else none

/-- The directory above; the root is above itself. -/
def up (place : Place) : Place :=
  if place = root then root
  else if place.all (· = "..") then place ++ [".."]
  else place.dropLast

/-- Whether a place is below the working directory. -/
def isBelow (place : Place) : Bool :=
  match place with
  | [] => false
  | first :: _ => first ≠ "/" && first ≠ ".."

def path : Place → String
  | "/" :: rest => "/" ++ "/".intercalate rest
  | place => "/".intercalate place

end Place

/-- The files and directories that are known, apart from those that always stand. -/
structure FileTree where
  nodes : List (Place × FileNode)
deriving DecidableEq

namespace FileTree

def empty : FileTree := ⟨[]⟩

def node? (t : FileTree) (place : Place) : Option FileNode :=
  place.standing?.or (t.nodes.lookup place)

/-- The longest name of a file, in bytes. -/
def nameLimit : Nat := 255

/-- The longest path, in bytes. -/
def pathLimit : Nat := 4095

/-- Follows directory names from a place. -/
def follow (t : FileTree) (place : Place) : List String → Except FileError Place
  | [] => .ok place
  | name :: rest =>
      if name = "" || name = "." then follow t place rest
      else if name = ".." then follow t place.up rest
      else if name.utf8ByteSize > nameLimit then .error .nameTooLong
      else
        match t.node? (place ++ [name]) with
        | some .directory => follow t (place ++ [name]) rest
        | some _ => .error .notDirectory
        | none => .error .notFound

/-- Where a path leads: the place of its directory and its last name, and whether it must be a
directory because a slash follows. -/
structure Target where
  directory : Place
  name : String
  mustBeDirectory : Bool

/-- The place that the target names. -/
def Target.place (target : Target) : Place :=
  if target.name = "." then target.directory
  else if target.name = ".." then target.directory.up
  else target.directory ++ [target.name]

def resolve (t : FileTree) (path : String) : Except FileError Target := do
  if path.toList.contains '\x00' then throw .nulByte
  if path.utf8ByteSize > pathLimit then throw .nameTooLong
  if path = "" then throw .notFound
  let parts := Path.parts path
  let base := if parts.head? = some "" then Place.root else []
  let names := parts.filter (· ≠ "")
  match names.getLast? with
  | none => return ⟨base, ".", true⟩
  | some name =>
      let directory ← t.follow base names.dropLast
      if name.utf8ByteSize > nameLimit then throw .nameTooLong
      return ⟨directory, name, parts.getLast? = some ""⟩

def nodeAt (t : FileTree) (path : String) : Except FileError (Target × Option FileNode) := do
  let target ← t.resolve path
  let node? := t.node? target.place
  match node? with
  | some .directory | none => return (target, node?)
  | some _ => if target.mustBeDirectory then throw .notDirectory else return (target, node?)

def isDirectory (t : FileTree) (path : String) : Bool :=
  match t.nodeAt path with
  | .ok (_, some .directory) => true
  | _ => false

def read (t : FileTree) (path : String) : Except FileError (List UInt8) := do
  match ← t.nodeAt path with
  | (_, some (.file content)) => return content
  | (_, some .sink) => return []
  | (_, some .directory) => throw .isDirectory
  | (_, none) => throw .notFound

def readText (t : FileTree) (path : String) : Except FileError String := do
  match Text.ofBytes? (← t.read path) with
  | some text => return text
  | none => throw .notText

def put (t : FileTree) (place : Place) (node : FileNode) : FileTree :=
  ⟨(place, node) :: t.nodes.filter fun entry => entry.1 ≠ place⟩

/-- Makes or replaces a file. -/
def write (t : FileTree) (path : String) (content : List UInt8) : Except FileError FileTree := do
  match ← t.nodeAt path with
  | (_, some .directory) => throw .isDirectory
  | (target, some (.file _)) => return t.put target.place (.file content)
  | (_, some .sink) => return t
  | (target, none) =>
      if target.mustBeDirectory then throw .isDirectory
      else return t.put target.place (.file content)

def makeDirectory (t : FileTree) (path : String) : Except FileError FileTree := do
  let target ← t.resolve path
  match t.node? target.place with
  | some _ => throw .alreadyExists
  | none => return t.put target.place .directory

/-- The beginnings of a path that end with one of its components, the shortest first. -/
def stages (path : String) : List String :=
  match Path.components path with
  | [] => []
  | first :: rest =>
      (rest.foldl (fun (done : List String × String) name =>
        let path := Path.join done.2 name
        (path :: done.1, path)) ([first], first)).1.reverse

/-- Makes a directory unless it is there. -/
def makeUnlessThere (t : FileTree) (path : String) : Except FileError Unit × FileTree :=
  match t.makeDirectory path with
  | .ok t => (.ok (), t)
  | .error e => (if t.isDirectory path then .ok () else .error e, t)

/-- Makes a directory after those above it that are missing, which stay when something fails later.
What exists already must be a directory. The first argument bounds the number of directories. -/
def makeWithin : Nat → FileTree → String → Except FileError Unit × FileTree
  | 0, t, _ => (.error .notFound, t)
  | bound + 1, t, path =>
      if path = "" then (.ok (), t)
      else
        match t.makeDirectory path, Path.parent? path with
        | .error .notFound, some parent =>
            match makeWithin bound t parent with
            | (.ok (), t) => t.makeUnlessThere path
            | failed => failed
        | _, _ => t.makeUnlessThere path

/-- Makes a directory and those above it. -/
def makeDirectories (t : FileTree) (path : String) : Except FileError Unit × FileTree :=
  t.makeWithin (path.length + 1) path

/-- Puts a file or an empty directory in its place, with the directories above it. -/
def withNode (t : FileTree) (path : String) (node : FileNode) : FileTree :=
  let place : Place := (Path.components path).filter (· ≠ ".")
  let above := (List.range place.length).map place.take
  let t := above.foldl (fun t place => if (t.node? place).isNone then t.put place .directory else t) t
  t.put place node

/-- The files below the working directory with their paths, in the order of their names. -/
def files (t : FileTree) : List (String × List UInt8) :=
  (t.nodes.filterMap fun
    | (place, .file content) => if place.isBelow then some (place.path, content) else none
    | _ => none).mergeSort fun a b => a.1 ≤ b.1

end FileTree

end AuditDesk
