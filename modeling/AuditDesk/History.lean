import AuditDesk.Comparison

/-!
The reports fetched from the service, and which of them are selected for comparison. Reports are
known by their position in the list, since identifiers may be missing or repeated; another list
therefore starts with nothing selected.
-/
namespace AuditDesk

structure History where
  reports : List Report
  /-- Positions in ascending order. -/
  selected : List Nat
deriving DecidableEq

namespace History

def empty : History := ⟨[], []⟩

def ofReports (reports : List Report) : History := ⟨reports, []⟩

def size (h : History) : Nat := h.reports.length

def get? (h : History) (position : Nat) : Option Report := h.reports[position]?

def isSelected (h : History) (position : Nat) : Bool := h.selected.contains position

/-- Puts a position in its place among ascending ones. -/
def insertAscending (position : Nat) : List Nat → List Nat
  | [] => [position]
  | p :: rest => if position < p then position :: p :: rest else p :: insertAscending position rest

/-- Selects a position, or gives it up when it was selected, and says which; a position outside the
list changes nothing. -/
def toggle (h : History) (position : Nat) : Option Bool × History :=
  if h.size ≤ position then (none, h)
  else if h.isSelected position then
    (some false, { h with selected := h.selected.filter (· ≠ position) })
  else (some true, { h with selected := insertAscending position h.selected })

/-- The selected reports with their positions, in list order. -/
def chosen (h : History) : List (Nat × Report) :=
  h.selected.filterMap fun position => (h.get? position).map (position, ·)

/-- Compares the selected reports; a column is labelled as the list labels its report. -/
def compareSelected (h : History) : Except TooFewReports Comparison := do
  let comparison ← Comparison.ofReports (h.chosen.map Prod.snd) Comparison.leastCount
  return { comparison with columns := h.chosen.map fun entry => entry.2.label entry.1 }

/-- The label of each report. -/
def labels (h : History) : List String := Comparison.labels h.reports

end History

end AuditDesk
