/-!
The views of the desk, one of which is shown at a time.
-/
namespace AuditDesk

inductive View where
  | results
  | snippets
  | history
  | compare
deriving DecidableEq

namespace View

/-- The views in the order of their tabs. -/
def all : List View := [.results, .snippets, .history, .compare]

def title : View → String
  | .results => "Results"
  | .snippets => "Snippets"
  | .history => "History"
  | .compare => "Compare"

def index : View → Nat
  | .results => 0
  | .snippets => 1
  | .history => 2
  | .compare => 3

def next : View → View
  | .results => .snippets
  | .snippets => .history
  | .history => .compare
  | .compare => .results

def previous : View → View
  | .results => .compare
  | .snippets => .results
  | .history => .snippets
  | .compare => .history

def ofTitle? (title : String) : Option View := all.find? fun v => v.title == title

@[simp]
theorem previous_next (v : View) : v.next.previous = v := by cases v <;> rfl

@[simp]
theorem next_previous (v : View) : v.previous.next = v := by cases v <;> rfl

end View

end AuditDesk
