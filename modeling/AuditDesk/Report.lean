import AuditDesk.Time.Timestamp

/-!
Reports: what an analysis found in a contract.
-/
namespace AuditDesk

/-- One finding of an analysis. -/
structure Finding where
  name : String
  description : String
deriving DecidableEq

/-- The service identifies reports by number or by text. -/
inductive ReportId where
  | number (value : Int)
  | text (value : String)
deriving DecidableEq

def ReportId.display : ReportId → String
  | .number n => toString n
  | .text s => s

/-- The numbers that an identifier can be: those of 64 bits with a sign. -/
def ReportId.inRange (n : Int) : Bool :=
  -9223372036854775808 ≤ n && n ≤ 9223372036854775807

structure Report where
  id : Option ReportId
  createdAt : Option Timestamp
  /-- The source that was analysed. -/
  contractCode : Option String
  findings : List Finding
deriving DecidableEq

namespace Report

/-- Whether some finding has exactly this name. -/
def mentions (r : Report) (name : String) : Bool :=
  r.findings.any fun f => f.name == name

/-- The identifier, or the position in its list for a report without one. -/
def label (r : Report) (position : Nat) : String :=
  match r.id with
  | some id => id.display
  | none => "#" ++ toString position

end Report

end AuditDesk
