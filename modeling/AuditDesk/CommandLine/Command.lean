import AuditDesk.CommandLine.Reading

/-!
The commands of the program and the grammar in which they are given.
-/
namespace AuditDesk.CommandLine

inductive SnippetsCommand where
  | save (name file : String) (language : Option Language)
  | list
  | show (index : Nat)
  | delete (index : Nat)
deriving DecidableEq

inductive AuthCommand where
  | setToken (token : String)
  | clear
  | status
deriving DecidableEq

/-- What `analyze` is to do besides the analysis. -/
structure AnalyzeOptions where
  language : Option Language
  json : Bool
  exportFormat : Option ExportFormat
  /-- The directory of the export. -/
  out : Option String
deriving DecidableEq

inductive Command where
  | analyze (file : String) (options : AnalyzeOptions)
  | snippets (command : SnippetsCommand)
  | history (json : Bool)
  | compare (positions : List Nat)
  | exportEntry (position : Nat) (format : ExportFormat) (out : Option String) (remote : Bool)
  | info (name : String)
  | auth (command : AuthCommand)
  | interactive (file : Option String) (language : Option Language)
deriving DecidableEq

/-- The options that go with every command. -/
structure GlobalOptions where
  apiUrl : Option String
  offline : Bool
  ephemeral : Bool
  verbose : Bool
deriving DecidableEq

structure Invocation where
  options : GlobalOptions
  /-- Without a command the program is interactive. -/
  command : Option Command
deriving DecidableEq

section Grammar

def apiUrl : CommandOption := .valued "api-url" none "API_URL" .text
def offline : CommandOption := .flag "offline" none
def ephemeral : CommandOption := .flag "ephemeral" none
def verbose : CommandOption := .flag "verbose" (some 'v')
def help : CommandOption := ⟨"help", some 'h', .help⟩
def version : CommandOption := ⟨"version", some 'V', .version⟩

def language : CommandOption := .valued "language" (some 'l') "LANGUAGE" .language
def json : CommandOption := .flag "json" none
def exportFormat : CommandOption := .valued "export" none "EXPORT" .exportFormat
def format : CommandOption := .valued "format" (some 'f') "FORMAT" .exportFormat
def out : CommandOption := .valued "out" none "OUT" .path
def remote : CommandOption := .flag "remote" none
def sourceOption : CommandOption := .valued "file" (some 'f') "FILE" .path

def file : Slot := .single "FILE" .path
def name : Slot := .single "NAME" .text
def index : Slot := .single "INDEX" .number
def position : Slot := .single "POSITION" .number
def positions : Slot := .several "POSITIONS" .number
def token : Slot := .single "TOKEN" .text

/-- What can be given with every command. -/
def everywhere : List CommandOption := [apiUrl, offline, ephemeral, verbose, help]

def leaf (options : List CommandOption) (positionals : List Slot) : Grammar :=
  ⟨everywhere ++ options, positionals, [], [], false⟩

def group (subcommands : List (String × Grammar)) : Grammar :=
  ⟨everywhere, [], [], subcommands, true⟩

def snippetsGrammar : Grammar :=
  group
    [ ("save", leaf [language] [name, file]),
      ("list", leaf [] []),
      ("show", leaf [] [index]),
      ("delete", leaf [] [index]) ]

def authGrammar : Grammar :=
  group [("set-token", leaf [] [token]), ("clear", leaf [] []), ("status", leaf [] [])]

def programGrammar : Grammar where
  options := everywhere ++ [version]
  positionals := []
  required := []
  subcommands :=
    [ ("analyze", leaf [language, json, exportFormat, out] [file]),
      ("snippets", snippetsGrammar),
      ("history", leaf [json] []),
      ("compare", leaf [] [positions]),
      ("export", { leaf [format, out, remote] [position] with required := [format.role.label] }),
      ("info", leaf [] [name]),
      ("auth", authGrammar),
      ("tui", leaf [sourceOption, language] []) ]
  needsSubcommand := false

end Grammar

namespace Reading

/-- Whether an option was given. -/
def given (r : Reading) (o : CommandOption) : Bool := r.has o.role.label

/-- The first value under a label, taken for what it should be. -/
def value? {α : Type} (r : Reading) (label : String) (take : Argument → Option α) : Option α :=
  (r.lookup label).bind fun values => values.head?.bind take

def asText : Argument → Option String
  | .text s => some s
  | .path s => some s
  | _ => none

def asLanguage : Argument → Option Language
  | .language l => some l
  | _ => none

def asFormat : Argument → Option ExportFormat
  | .exportFormat f => some f
  | _ => none

def asNumber : Argument → Option Nat
  | .number n => some n
  | _ => none

def text? (r : Reading) (o : CommandOption) : Option String := r.value? o.role.label asText

def language? (r : Reading) (o : CommandOption) : Option Language := r.value? o.role.label asLanguage

def format? (r : Reading) (o : CommandOption) : Option ExportFormat := r.value? o.role.label asFormat

/-- A value without which the command cannot be carried out. -/
def need {α : Type} (label : String) : Option α → Except UsageError α
  | some a => .ok a
  | none => .error (.missingArguments [label])

def text (r : Reading) (slot : Slot) : Except UsageError String :=
  need slot.label (r.value? slot.label asText)

def number (r : Reading) (slot : Slot) : Except UsageError Nat :=
  need slot.label (r.value? slot.label asNumber)

def numbers (r : Reading) (slot : Slot) : Except UsageError (List Nat) :=
  need slot.label ((r.lookup slot.label).map fun values => values.filterMap asNumber)

/-- The command that was named, with its arguments. -/
def command? (r : Reading) : Except UsageError (Option Command) := do
  match r.path with
  | [] => return none
  | ["analyze"] =>
      return some (.analyze (← r.text file)
        ⟨r.language? CommandLine.language, r.given json, r.format? exportFormat, r.text? out⟩)
  | ["snippets", "save"] =>
      return some (.snippets
        (.save (← r.text name) (← r.text file) (r.language? CommandLine.language)))
  | ["snippets", "list"] => return some (.snippets .list)
  | ["snippets", "show"] => return some (.snippets (.show (← r.number index)))
  | ["snippets", "delete"] => return some (.snippets (.delete (← r.number index)))
  | ["history"] => return some (.history (r.given json))
  | ["compare"] => return some (.compare (← r.numbers positions))
  | ["export"] =>
      let format ← need format.role.label (r.format? format)
      return some (.exportEntry (← r.number position) format (r.text? out) (r.given remote))
  | ["info"] => return some (.info (← r.text name))
  | ["auth", "set-token"] => return some (.auth (.setToken (← r.text token)))
  | ["auth", "clear"] => return some (.auth .clear)
  | ["auth", "status"] => return some (.auth .status)
  | ["tui"] =>
      return some (.interactive (r.text? sourceOption) (r.language? CommandLine.language))
  | _ => throw .missingSubcommand

end Reading

namespace Invocation

/-- Reads the words that follow the program's name. -/
def ofWords (words : List String) : Except UsageError Invocation := do
  let r ← Reading.ofWords programGrammar "" .start words
  return {
    options := ⟨r.text? apiUrl, r.given offline, r.given ephemeral, r.given verbose⟩
    command := ← r.command? }

end Invocation

end AuditDesk.CommandLine
