import AuditDesk.Screen.Canvas
import AuditDesk.Text.Lines

/-!
Lines of styled text, and drawing them into one row.
-/
namespace AuditDesk.Screen

open Text

/-- A stretch of text in one style. -/
structure Run where
  text : String
  style : Style
deriving DecidableEq

abbrev Line := List Run

namespace Line

/-- A line of plain text; of a text of several lines each is a run of its own. -/
def plain (text : String) : Line := (Text.lines text).map fun line => ⟨line, .plain⟩

def styled (text : String) (style : Style) : Line := [⟨text, style⟩]

/-- The glyphs of a line with their styles. -/
def glyphs (line : Line) : List (Glyph × Style) :=
  line.flatMap fun run => (Text.glyphs run.text).map (·, run.style)

/-- The width of a line: that of its runs, each measured as a whole. -/
def width (line : Line) : Nat := line.foldl (fun width run => width + Text.width run.text) 0

end Line

/-- A pen that moves to the right along a row. -/
structure Pen where
  canvas : Canvas
  x : Nat
  /-- A glyph did not fit; nothing more is drawn. -/
  stopped : Bool

/-- Draws a glyph of a run that began at `start`, in front of the column `right`. A mark at the start
of a run is put down like a glyph, and the glyph behind it joins it. -/
def Pen.draw (y right start : Nat) (first : Bool) (pen : Pen) (glyph : Glyph) (style : Style) : Pen :=
  let next := pen.x + glyph.width
  if pen.stopped || right < next then { pen with stopped := true }
  else
    let drawn :=
      if first then pen.canvas.put pen.x y glyph.text style
      else if pen.x = start then pen.canvas.append pen.x y glyph.text style
      else if glyph.width = 0 then pen.canvas.append (pen.x - 1) y glyph.text style
      else pen.canvas.put pen.x y glyph.text style
    ⟨drawn.erase (pen.x + 1) y (glyph.width - 1), next, false⟩

/-- Draws a run from a column on, in front of the column `right`. -/
def Canvas.drawRun (c : Canvas) (x y right : Nat) (run : Run) : Canvas :=
  ((Text.glyphs run.text).foldl
    (fun (state : Pen × Bool) glyph => (state.1.draw y right x state.2 glyph run.style, false))
    (⟨c, x, false⟩, true)).1.canvas

/-- Draws a line into the first row of an area and cuts it at the area's right edge. Each run begins
where the width of those before it ends; runs without a width are left out. -/
def Canvas.drawLine (c : Canvas) (area : Rect) (line : Line) : Canvas :=
  let right := min area.right c.width
  if area.height = 0 || c.height ≤ area.y then c
  else
    (line.foldl (fun (state : Canvas × Nat) run =>
      let width := Text.width run.text
      if width = 0 || right ≤ state.2 then state
      else (state.1.drawRun state.2 area.y right run, state.2 + width)) (c, area.x)).1

/-- Draws lines below each other as far as the area reaches. -/
def Canvas.drawLines (c : Canvas) (area : Rect) (lines : List Line) : Canvas :=
  ((lines.take area.height).foldl (fun (state : Canvas × Nat) line =>
    (state.1.drawLine (area.row state.2 1) line, state.2 + 1)) (c, 0)).1

end AuditDesk.Screen
