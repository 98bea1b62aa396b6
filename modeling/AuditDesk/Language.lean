import AuditDesk.Text.Blank

/-!
The languages in which a contract may be written.
-/
namespace AuditDesk

inductive Language where
  | solidity
  | vyper
deriving DecidableEq

instance : Inhabited Language := ⟨.solidity⟩

/-- A name given by the user that names nothing. -/
inductive NameError where
  | language (given : String)
  | exportFormat (given : String)
deriving DecidableEq

def NameError.message : NameError → String
  | .language given => "Unsupported language: " ++ given
  | .exportFormat given => "Unsupported export format: " ++ given

namespace Language

def name : Language → String
  | .solidity => "solidity"
  | .vyper => "vyper"

def other : Language → Language
  | .solidity => .vyper
  | .vyper => .solidity

/-- Reads a name; case and surrounding white space do not matter. -/
def ofName (given : String) : Except NameError Language :=
  match Text.asciiLower (Text.trim given) with
  | "solidity" => .ok .solidity
  | "vyper" => .ok .vyper
  | _ => .error (.language given)

/-- The language of source files with this extension. -/
def ofExtension? (extension : String) : Option Language :=
  match Text.asciiLower extension with
  | "sol" => some .solidity
  | "vy" => some .vyper
  | _ => none

/-- A language asked for goes before one found out, and that before Solidity. -/
def resolve (asked found : Option Language) : Language :=
  (asked <|> found).getD .solidity

end Language

/-- The file formats of an export. -/
inductive ExportFormat where
  | csv
  | json
deriving DecidableEq

namespace ExportFormat

def name : ExportFormat → String
  | .csv => "csv"
  | .json => "json"

def fileName : ExportFormat → String
  | .csv => "vulnerabilities.csv"
  | .json => "vulnerabilities.json"

def mimeType : ExportFormat → String
  | .csv => "text/csv;charset=utf-8;"
  | .json => "application/json;charset=utf-8;"

/-- Reads a name; case and surrounding white space do not matter. -/
def ofName (given : String) : Except NameError ExportFormat :=
  match Text.asciiLower (Text.trim given) with
  | "csv" => .ok .csv
  | "json" => .ok .json
  | _ => .error (.exportFormat given)

end ExportFormat

end AuditDesk
