import AuditDesk.CommandLine.Launch
import Std.Time.DateTime.Timestamp

/-!
The program itself. It looks at the files that the run may touch, lets the run take place, prints what
there is to print, and writes the files that have changed. No network is reached from here, and there is
no terminal that hands over single keys.
-/
namespace AuditDesk.CommandLine

/-- The file or directory at a path, if there is one. What cannot be read as a file is a directory. -/
def readNode (path : String) : IO (Option FileNode) := do
  try
    return some (.file (← IO.FS.readBinFile path).toList)
  catch
    | .noFileOrDirectory .. => return none
    | _ => return some .directory

/-- Looks at a file and at the directories that lead to it. -/
def look (t : FileTree) (path : String) : IO FileTree :=
  (FileTree.stages path).foldlM (fun t stage => do
    match t.nodeAt stage with
    | .ok (target, none) =>
        match ← readNode stage with
        | some node => return t.put target.place node
        | none => return t
    | _ => return t) t

/-- Writes what is new or different. Directories come first. -/
def writeChanges (before after : FileTree) : IO Unit := do
  let changed := after.nodes.filter fun entry => before.node? entry.1 ≠ some entry.2
  for (place, node) in changed do
    if node = .directory then IO.FS.createDirAll place.path
  for (place, node) in changed do
    match node with
    | .file content => IO.FS.writeBinFile place.path content.toByteArray
    | _ => pure ()

/-- The instant from which the platform counts time. -/
def epoch : Timestamp := .ofDate (.newYear 1970)

def startClock : IO Clock := do
  let now ← Std.Time.Timestamp.now
  return .started (epoch.later now.toMillisecondsSinceUnixEpoch.val.toNat)

/-- Where programs keep their data. -/
def platformDir : IO String := do
  let base ← match ← IO.getEnv "XDG_DATA_HOME" with
    | some dir => pure dir
    | none => do return Path.join ((← IO.getEnv "HOME").getD ".") ".local/share"
  return Path.join base programName

/-- The variables that mean something to the program, and one that values often mention. -/
def readVariables : IO (List (String × String)) :=
  ("HOME" :: Config.variableNames).filterMapM fun name => do return (← IO.getEnv name).map (name, ·)

def runProgram (words : List String) : IO UInt32 := do
  let environment ← readVariables
  let s : Surroundings :=
    { environment := fun name => environment.lookup name
      platformDir := ← platformDir
      files := ← look .empty Launch.variableFile
      input := []
      supply := ⟨fun _ => none, ← IO.rand 0 999999999⟩
      clock := ← startClock
      keys := none }
  let paths := Launch.touched s words
  let files ← paths.foldlM look s.files
  let input ← if paths.any Source.isStandardInput then (← IO.getStdin).readBinToEnd else pure .empty
  let ended := launch { s with files := files, input := input.toList } words
  IO.print ended.output.standard
  IO.eprint ended.output.error
  writeChanges files ended.files
  return ended.status.toUInt32

end AuditDesk.CommandLine

def main (words : List String) : IO UInt32 := AuditDesk.CommandLine.runProgram words
