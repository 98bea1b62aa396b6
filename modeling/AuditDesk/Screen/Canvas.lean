import AuditDesk.Screen.Rect
import AuditDesk.Screen.Style
import AuditDesk.Text.Width

/-!
A grid of cells to draw on. What would be drawn outside the grid is left out.
-/
namespace AuditDesk.Screen

open Text

/-- A cell holds a cluster of text; a wide one reaches over the cells to its right. -/
structure Cell where
  text : String
  style : Style
deriving DecidableEq

namespace Cell

def blank : Cell := ⟨" ", .plain⟩

/-- The number of cells to the right that are hidden. -/
def covered (cell : Cell) : Nat := Text.width cell.text - 1

end Cell

structure Canvas where
  width : Nat
  height : Nat
  /-- Row after row. -/
  cells : Array Cell
  size_eq : cells.size = width * height

namespace Canvas

def blank (width height : Nat) : Canvas :=
  ⟨width, height, Array.replicate (width * height) .blank, Array.size_replicate⟩

def area (c : Canvas) : Rect := ⟨0, 0, c.width, c.height⟩

/-- Changes one cell. -/
def change (c : Canvas) (x y : Nat) (f : Cell → Cell) : Canvas :=
  if x < c.width then
    { c with cells := c.cells.modify (y * c.width + x) f, size_eq := by simp [c.size_eq] }
  else c

/-- Changes the cells of a rectangle. -/
def changeAll (c : Canvas) (r : Rect) (f : Cell → Cell) : Canvas :=
  let right := min r.right c.width
  let bottom := min r.bottom c.height
  (List.range (bottom - r.y)).foldl (fun c dy =>
    (List.range (right - r.x)).foldl (fun c dx => c.change (r.x + dx) (r.y + dy) f) c) c

/-- Lays a style over the cells of a rectangle. -/
def paint (c : Canvas) (r : Rect) (style : Style) : Canvas :=
  if style = .plain then c
  else c.changeAll r fun cell => { cell with style := style.onto cell.style }

/-- Makes the cells of a rectangle blank. -/
def clear (c : Canvas) (r : Rect) : Canvas := c.changeAll r fun _ => .blank

/-- Writes text into a cell. -/
def put (c : Canvas) (x y : Nat) (text : String) (style : Style) : Canvas :=
  c.change x y fun cell => ⟨text, style.onto cell.style⟩

/-- Adds a mark, which takes no cell of its own, to the text of a cell. -/
def append (c : Canvas) (x y : Nat) (text : String) (style : Style) : Canvas :=
  c.change x y fun cell => ⟨cell.text ++ text, style.onto cell.style⟩

/-- Makes cells of a row blank. -/
def erase (c : Canvas) (x y count : Nat) : Canvas :=
  (List.range count).foldl (fun c dx => c.change (x + dx) y fun _ => .blank) c

/-- The cells as a screen shows them when the first `hidden` ones are covered by those before them. -/
def shownFrom (hidden : Nat) : List Cell → List Cell
  | [] => []
  | cell :: rest => (if hidden = 0 then cell else .blank) :: shownFrom cell.covered rest

theorem length_shownFrom (hidden : Nat) (cells : List Cell) :
    (shownFrom hidden cells).length = cells.length := by
  induction cells generalizing hidden with
  | nil => rfl
  | cons cell rest ih => simp [shownFrom, ih]

/-- What a screen that was blank shows: cells that are covered by a wide cluster stay blank. -/
def shown (c : Canvas) : Canvas :=
  { c with
    cells := (shownFrom 0 c.cells.toList).toArray
    size_eq := by simp [length_shownFrom, c.size_eq] }

section Rows

def row (c : Canvas) (y : Nat) : List Cell :=
  (c.cells.extract (y * c.width) ((y + 1) * c.width)).toList

/-- The text of a row without the `hidden` first cells. -/
def rowTextFrom (hidden : Nat) : List Cell → String
  | [] => ""
  | cell :: rest =>
      if hidden = 0 then cell.text ++ rowTextFrom cell.covered rest
      else rowTextFrom (hidden - 1) rest

/-- The rows as text. -/
def texts (c : Canvas) : List String :=
  (List.range c.height).map fun y => rowTextFrom 0 (c.row y)

/-- A run of cells of one style. -/
structure StyleRun where
  start : Nat
  count : Nat
  style : Style
deriving DecidableEq

/-- The longest runs of one style in a row. -/
def styleRuns (cells : List Cell) : List StyleRun :=
  (cells.foldl (fun (state : List StyleRun × Nat) cell =>
    match state.1 with
    | run :: runs =>
        if run.style = cell.style then ({ run with count := run.count + 1 } :: runs, state.2 + 1)
        else (⟨state.2, 1, cell.style⟩ :: run :: runs, state.2 + 1)
    | [] => ([⟨state.2, 1, cell.style⟩], state.2 + 1)) ([], 0)).1.reverse

end Rows

end Canvas

end AuditDesk.Screen
