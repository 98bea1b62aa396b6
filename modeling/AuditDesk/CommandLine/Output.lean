/-!
What a command prints: plain lines and coloured messages, on the standard output and on the error
output.
-/
namespace AuditDesk.CommandLine

structure Output where
  standard : String
  error : String
deriving DecidableEq

namespace Output

def empty : Output := ⟨"", ""⟩

def cyan : String := "\x1b[36m"
def green : String := "\x1b[32m"
def yellow : String := "\x1b[33m"
def red : String := "\x1b[31m"

/-- A text in a colour, which ends with the text. -/
def coloured (colour text : String) : String := colour ++ text ++ "\x1b[0m"

def line (o : Output) (text : String) : Output := { o with standard := o.standard ++ text ++ "\n" }

def errorLine (o : Output) (text : String) : Output := { o with error := o.error ++ text ++ "\n" }

def info (o : Output) (text : String) : Output := o.line (coloured cyan ("ℹ " ++ text))

def found (o : Output) (count : Nat) (things : String) : Output :=
  o.line (coloured cyan ("Found " ++ toString count ++ " " ++ things))

def saved (o : Output) (path : String) : Output := o.line (coloured green ("✓ Saved: " ++ path))

def warning (o : Output) (text : String) : Output :=
  o.errorLine (coloured yellow ("⚠ Warning: " ++ text))

def failure (o : Output) (text : String) : Output := o.errorLine (coloured red ("✗ " ++ text))

end Output

end AuditDesk.CommandLine
