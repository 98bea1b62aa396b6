import AuditDesk.CommandLine.Run
import AuditDesk.CommandLine.VariableFile
import AuditDesk.Desk.Keystroke
import AuditDesk.Desk.Sitting

/-!
A run of the program from its start to its end: the settings, the command, and what is left in files.
-/
namespace AuditDesk.CommandLine

/-- What the program is started in. -/
structure Surroundings where
  /-- The variables that are set. -/
  environment : String → Option String
  /-- Where the platform keeps the data of programs. -/
  platformDir : String
  files : FileTree
  /-- What the standard input holds. -/
  input : List UInt8
  supply : Setup.Supply
  clock : Clock
  /-- The keys typed by the user; nothing without a terminal. -/
  keys : Option (List KeyEvent)

inductive LaunchError where
  | config (e : ConfigError)
  | logDirectory (path : String) (e : FileError)
  | logFile (path : String) (e : FileError)
  | setup (e : SetupError)
  | source (e : SourceError)
  | noTerminal

namespace LaunchError

/-- The messages of the error and of what is behind it, outermost first. -/
def chain : LaunchError → List String
  | .config e => [e.message]
  | .logDirectory path e => ["Failed to create log directory " ++ path, e.message]
  | .logFile path e => ["Failed to open log file " ++ path, e.message]
  | .setup e => e.chain
  | .source e => e.chain
  | .noTerminal => ["No such device or address (os error 6)"]

def message (e : LaunchError) : String := ": ".intercalate e.chain

end LaunchError

/-- How a run ends. -/
structure Ended where
  status : Nat
  output : Output
  files : FileTree

namespace Launch

/-- The start of the program, which may fail after it has changed files. -/
abbrev Start := ExceptT LaunchError (StateM FileTree)

def ofFiles (error : FileError → LaunchError) (f : FileTree → Except FileError Unit × FileTree) :
    Start Unit := do
  let (answer, files) := f (← get)
  set files
  match answer with
  | .ok () => pure ()
  | .error e => throw (error e)

/-- The file whose variables are taken over. -/
def variableFile : String := ".env"

def config (s : Surroundings) (options : GlobalOptions) : Start Config := do
  let environment := VariableFile.extend s.environment ((s.files.read variableFile).toOption.getD [])
  match Config.ofLookup environment with
  | .error e => throw (.config e)
  | .ok c =>
      return { c with
        apiUrl := options.apiUrl.getD c.apiUrl
        offline := options.offline
        ephemeral := options.ephemeral }

/-- Makes the log file of an interactive run, if it is missing. -/
def openLog (dataDir : String) : Start Unit := do
  let path := Path.join dataDir Config.logName
  let directory := (Path.parent? path).getD ""
  ofFiles (.logDirectory directory) (·.makeDirectories directory)
  ofFiles (.logFile path) fun t =>
    match t.read path with
    | .ok _ => (.ok (), t)
    | .error .notFound =>
        match t.write path [] with
        | .ok t => (.ok (), t)
        | .error e => (.error e, t)
    | .error e => (.error e, t)

def build (s : Surroundings) (config : Config) : Start Setup := do
  match Setup.build config s.platformDir s.supply (← get) with
  | .ok (setup, files) => set files; pure setup
  | .error e => throw (.setup e)

/-- The desk as it is first seen: with the source of a file, if one is named. -/
def prepare (s : Surroundings) (path : Option String) (asked : Option Language) (d : Desk) :
    Except SourceError Desk :=
  match path with
  | none => .ok { d with language := asked.getD d.language }
  | some path => do
      let source ← Source.read d.files s.input path
      return d.setSource source.code (Language.resolve asked source.language) (Path.fileName? path)

/-- Lets the user work at the desk. -/
def sit (s : Surroundings) (setup : Setup) (path : Option String) (asked : Option Language) :
    Start Unit := do
  let session := Session.start setup (← get) s.clock
  match prepare s path asked session.desk, s.keys with
  | .error e, _ => throw (.source e)
  | .ok _, none => throw .noTerminal
  | .ok desk, some keys =>
      let desk := (session.act fun _ => desk).sit keys |>.desk
      set (setup.site.writeBack desk.storage desk.files)

/-- Carries out what was asked for; answers what was printed and whether the command has failed. -/
def carryOut (s : Surroundings) (i : Invocation) : Start (Output × Option CommandError) := do
  let config ← config s i.options
  match i.command.getD (.interactive none none) with
  | .interactive path asked =>
      openLog (config.dataDir.getD s.platformDir)
      sit s (← build s config) path asked
      return (.empty, none)
  | command =>
      let setup ← build s config
      let (result, w) := command.run s.input (.start setup (← get) s.clock)
      set w.files
      match result with
      | .error (.failed e) => return (w.output, some e)
      | _ => return (w.output, none)

/-- The files that a command reads a source from. -/
def sources : Command → List String
  | .analyze path _ => [path]
  | .snippets (.save _ path _) => [path]
  | .interactive path _ => path.toList
  | _ => []

/-- The directory that a command may write an export to, unless it is the usual one. -/
def exportDir? : Command → Option String
  | .analyze _ options => options.out
  | .exportEntry _ _ out _ => out
  | _ => none

/-- The paths of all files that a run may look at or change, apart from the file of variables. -/
def touched (s : Surroundings) (words : List String) : List String :=
  match Invocation.ofWords words with
  | .error _ => []
  | .ok i =>
      match ((config s i.options).run.run s.files).1 with
      | .error _ => []
      | .ok c =>
          let command := i.command.getD (.interactive none none)
          let dataDir := c.dataDir.getD s.platformDir
          let exports := (exportDir? command).getD c.exportDir
          let database := Path.join dataDir Config.databaseName
          let located := (Location.ofPath database).toOption.toList.map Location.path
          database :: Path.join dataDir Config.logName :: located ++ sources command ++
            [ExportFormat.csv, .json].map fun format => Path.join exports format.fileName

end Launch

def programName : String := "contract-auditor"
def programVersion : String := "0.1.0"

/-- What is said about a command line that is not carried out. -/
def UsageError.printed (e : UsageError) : Output :=
  let usage := "Usage: " ++ programName ++ " [OPTIONS] [COMMAND]"
  let commands := "Commands: " ++ ", ".intercalate (programGrammar.subcommands.map Prod.fst)
  match e with
  | .version => Output.empty.line (programName ++ " " ++ programVersion)
  | .help => (Output.empty.line usage).line commands
  | _ => (Output.empty.errorLine usage).errorLine commands

/-- Runs the program with the words that follow its name. -/
def launch (s : Surroundings) (words : List String) : Ended :=
  match Invocation.ofWords words with
  | .error e => ⟨e.status, e.printed, s.files⟩
  | .ok i =>
      match (Launch.carryOut s i).run.run s.files with
      | (.ok (output, none), files) => ⟨0, output, files⟩
      | (.ok (output, some e), files) => ⟨1, output.failure e.message, files⟩
      | (.error e, files) => ⟨1, Output.empty.failure e.message, files⟩

end AuditDesk.CommandLine
