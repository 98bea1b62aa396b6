import AuditDesk.Report

/-!
Which of several reports mention which findings.
-/
namespace AuditDesk

structure ComparisonRow where
  finding : String
  /-- One entry for each report, in their order. -/
  presence : List Bool
deriving DecidableEq

structure Comparison where
  columns : List String
  rows : List ComparisonRow
deriving DecidableEq

/-- Too few reports were chosen. -/
structure TooFewReports where
  required : Nat
  selected : Nat
deriving DecidableEq

def TooFewReports.message (e : TooFewReports) : String :=
  "Select at least " ++ toString e.required ++ " results to compare (got " ++
    toString e.selected ++ ")"

namespace Comparison

/-- The fewest reports that can be compared, unless said otherwise. -/
def leastCount : Nat := 2

/-- The distinct names, in the order in which they first appear. -/
def distinctNames (known : List String) : List String → List String
  | [] => known.reverse
  | name :: rest =>
      if known.contains name then distinctNames known rest else distinctNames (name :: known) rest

/-- The names of all findings, report after report. -/
def findingNames (reports : List Report) : List String :=
  reports.flatMap fun r => r.findings.map Finding.name

def row (reports : List Report) (name : String) : ComparisonRow :=
  ⟨name, reports.map (·.mentions name)⟩

def labels (reports : List Report) : List String :=
  reports.mapIdx fun position r => r.label position

def ofReports (reports : List Report) (leastCount : Nat) : Except TooFewReports Comparison :=
  if reports.length < leastCount then .error ⟨leastCount, reports.length⟩
  else .ok ⟨labels reports, (distinctNames [] (findingNames reports)).map (row reports)⟩

section Table

/-- The heading of the column that holds the names. -/
def heading : String := "Vulnerability"

def mark (present : Bool) : String := if present then "✓" else "-"

def nameWidth (c : Comparison) : Nat :=
  c.rows.foldl (fun width r => max width r.finding.length) heading.length

def columnWidths (c : Comparison) : List Nat :=
  c.columns.map fun label => max label.length 1

/-- The cells of a line, each padded to its column; cells without a column are dropped. -/
def line (widths : List Nat) (cells : List String) : String :=
  " | ".intercalate (List.zipWith Text.padRight widths cells)

def rule (widths : List Nat) : String :=
  "-+-".intercalate (widths.map fun width => Text.repeated width '-')

/-- A table with a check mark where a finding is present. Widths count characters. -/
def table (c : Comparison) : String :=
  let widths := c.nameWidth :: c.columnWidths
  "\n".intercalate
    (line widths (heading :: c.columns) :: rule widths ::
      c.rows.map fun r => line widths (r.finding :: r.presence.map mark))

end Table

end Comparison

end AuditDesk
