import AuditDesk.Files
import AuditDesk.Language

/-!
Contract sources read from a file or, for the path `-`, from the standard input.
-/
namespace AuditDesk

/-- A source and the language that its file name suggests. -/
structure Source where
  code : String
  language : Option Language
deriving DecidableEq

inductive SourceError where
  | unreadable (path : String) (e : FileError)
  | unreadableInput (e : FileError)
deriving DecidableEq

namespace SourceError

/-- The messages of the error and of what is behind it. -/
def chain : SourceError → List String
  | .unreadable path e => ["Failed to read " ++ path, e.message]
  | .unreadableInput e => ["Failed to read contract source from stdin", e.message]

def message (e : SourceError) : String := ": ".intercalate e.chain

end SourceError

namespace Source

def isStandardInput (path : String) : Bool := Path.same path "-"

def read (files : FileTree) (input : List UInt8) (path : String) : Except SourceError Source :=
  if isStandardInput path then
    match Text.ofBytes? input with
    | some code => .ok ⟨code, none⟩
    | none => .error (.unreadableInput .notText)
  else
    match files.readText path with
    | .ok code => .ok ⟨code, (Path.extension? path).bind Language.ofExtension?⟩
    | .error e => .error (.unreadable path e)

end Source

end AuditDesk
