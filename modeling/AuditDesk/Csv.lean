import AuditDesk.Report

/-!
Fields and records of comma-separated values. A field is quoted when it holds a quote, a comma or a
line break; inside quotes a quote is written twice.
-/
namespace AuditDesk.Csv

def needsQuotes (c : Char) : Bool := c = '"' || c = ',' || c = '\n' || c = '\r'

/-- Writes every quote twice. -/
def doubled : List Char → List Char
  | [] => []
  | c :: rest => if c = '"' then '"' :: '"' :: doubled rest else c :: doubled rest

/-- Reads two quotes in a row as one. -/
def undoubled : List Char → List Char
  | '"' :: '"' :: rest => '"' :: undoubled rest
  | c :: rest => c :: undoubled rest
  | [] => []

def escapeChars (field : List Char) : List Char :=
  if field.any needsQuotes then '"' :: (doubled field ++ ['"']) else field

/-- What stands between two quotes that enclose the whole field. -/
def enclosed? : List Char → Option (List Char)
  | '"' :: rest => if rest.getLast? = some '"' then some rest.dropLast else none
  | _ => none

def unescapeChars (written : List Char) : List Char :=
  match enclosed? written with
  | some inner => undoubled inner
  | none => written

def escape (field : String) : String := String.ofList (escapeChars field.toList)

def unescape (written : String) : String := String.ofList (unescapeChars written.toList)

def header : String := "Vulnerability,Description"

def record (f : Finding) : String := escape f.name ++ "," ++ escape f.description

/-- A header and one record for each finding, separated by line feeds. -/
def ofReport (r : Report) : String :=
  "\n".intercalate (header :: r.findings.map record)

end AuditDesk.Csv
