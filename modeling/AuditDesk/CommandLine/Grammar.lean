import AuditDesk.CommandLine.Argument

/-!
What may stand on a command line: options, positional arguments and subcommands, which have a grammar of
their own.
-/
namespace AuditDesk.CommandLine

/-- Something that takes values. -/
structure Slot where
  /-- How messages name it. -/
  label : String
  kind : ValueKind
  /-- It takes two or more values rather than one. -/
  many : Bool
deriving DecidableEq

/-- What giving an option means. -/
inductive OptionRole where
  /-- It is only present or absent. -/
  | flag (label : String)
  | valued (slot : Slot)
  | help
  | version
deriving DecidableEq

structure CommandOption where
  long : String
  short : Option Char
  role : OptionRole
deriving DecidableEq

structure Grammar where
  options : List CommandOption
  /-- All of them have to be given. -/
  positionals : List Slot
  /-- The labels of the options that have to be given. -/
  required : List String
  subcommands : List (String × Grammar)
  /-- One of the subcommands has to be given. -/
  needsSubcommand : Bool

namespace OptionRole

/-- How messages name an option. -/
def label : OptionRole → String
  | .flag label => label
  | .valued slot => slot.label
  | .help => "--help"
  | .version => "--version"

end OptionRole

namespace CommandOption

def flag (long : String) (short : Option Char) : CommandOption :=
  ⟨long, short, .flag ("--" ++ long)⟩

/-- An option with a value, which messages show in capitals. -/
def valued (long : String) (short : Option Char) (placeholder : String) (kind : ValueKind) :
    CommandOption :=
  ⟨long, short, .valued ⟨"--" ++ long ++ " <" ++ placeholder ++ ">", kind, false⟩⟩

end CommandOption

def Slot.single (placeholder : String) (kind : ValueKind) : Slot :=
  ⟨"<" ++ placeholder ++ ">", kind, false⟩

/-- Takes two values or more. -/
def Slot.several (placeholder : String) (kind : ValueKind) : Slot :=
  ⟨"<" ++ placeholder ++ "> <" ++ placeholder ++ ">...", kind, true⟩

namespace Grammar

def long? (g : Grammar) (name : String) : Option CommandOption :=
  g.options.find? fun o => o.long = name

def short? (g : Grammar) (letter : Char) : Option CommandOption :=
  g.options.find? fun o => o.short = some letter

def subcommand? (g : Grammar) (name : String) : Option Grammar := g.subcommands.lookup name

/-- The name of the subcommand that explains the others; it goes with every set of subcommands. -/
def helpName : String := "help"

def hasHelp (g : Grammar) : Bool := !g.subcommands.isEmpty

def isSubcommand (g : Grammar) (word : String) : Bool :=
  (g.subcommand? word).isSome || (g.hasHelp && word = helpName)

/-- The labels of everything that has to be given, options first. -/
def obligations (g : Grammar) : List String := g.required ++ g.positionals.map Slot.label

end Grammar

end AuditDesk.CommandLine
