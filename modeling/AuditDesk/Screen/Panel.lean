import AuditDesk.Screen.Wrap

/-!
Panels: areas with a border, a title and content.
-/
namespace AuditDesk.Screen

open Text

structure Panel where
  title : Line
  border : Style
  /-- The style laid under everything. -/
  fill : Style
deriving DecidableEq

namespace Panel

def titled (title : String) : Panel := ⟨.plain title, .plain, .plain⟩

def untitled : Panel := ⟨[], .plain, .plain⟩

end Panel

namespace Canvas

private def side (c : Canvas) (style : Style) (symbol : String) (places : List (Nat × Nat)) : Canvas :=
  places.foldl (fun c place => c.put place.1 place.2 symbol style) c

/-- Draws the border of an area. Of two corners in one cell the upper and the left one win. -/
def border (c : Canvas) (r : Rect) (style : Style) : Canvas :=
  let columns := (List.range r.width).map (r.x + ·)
  let rows := (List.range r.height).map (r.y + ·)
  let right := r.right - 1
  let bottom := r.bottom - 1
  let c := c.side style "│" (rows.map (r.x, ·))
  let c := c.side style "─" (columns.map (·, r.y))
  let c := c.side style "│" (rows.map (right, ·))
  let c := c.side style "─" (columns.map (·, bottom))
  let c := c.side style "┘" [(right, bottom)]
  let c := c.side style "┐" [(right, r.y)]
  let c := c.side style "└" [(r.x, bottom)]
  c.side style "┌" [(r.x, r.y)]

/-- Draws a panel without its content. -/
def panel (c : Canvas) (area : Rect) (p : Panel) : Canvas :=
  if area.width = 0 || area.height = 0 then c
  else
    let c := (c.paint area p.fill).border area p.border
    c.drawLine ⟨area.x + 1, area.y, min p.title.width (area.width - 2), 1⟩ p.title

/-- How lines that are too long are treated. -/
inductive Overflow where
  | cut
  | wrap
deriving DecidableEq

/-- The lines as they fit a width. -/
def fitted (overflow : Overflow) (width : Nat) (lines : List Line) : List (List StyledGlyph) :=
  match overflow with
  | .cut => lines.map fun line => Screen.cut width line.glyphs
  | .wrap => lines.flatMap fun line => Screen.wrap width line.glyphs

/-- Writes a row of glyphs; marks without a width are left out. -/
def writeRow (c : Canvas) (x y : Nat) (glyphs : List StyledGlyph) : Canvas :=
  (glyphs.foldl (fun (state : Canvas × Nat) g =>
    if g.1.width = 0 then state
    else (state.1.put state.2 y g.1.text g.2, state.2 + g.1.width)) (c, x)).1

/-- Writes text into an area. -/
def write (c : Canvas) (area : Rect) (overflow : Overflow) (lines : List Line) : Canvas :=
  if area.width = 0 || area.height = 0 then c
  else
    (((fitted overflow area.width lines).take area.height).foldl
      (fun (state : Canvas × Nat) glyphs =>
        (state.1.writeRow area.x state.2 glyphs, state.2 + 1)) (c, area.y)).1

/-- A panel with text, in a style that also covers the panel. -/
def textPanel (c : Canvas) (area : Rect) (p : Panel) (style : Style) (overflow : Overflow)
    (lines : List Line) : Canvas :=
  ((c.paint area style).panel area p).write area.inner overflow lines

/-- Draws entries of some lines each below each other, as many as fit as a whole. -/
def entries (c : Canvas) (area : Rect) : List (List Line) → Canvas
  | [] => c
  | entry :: rest =>
      if area.height < entry.length then c
      else
        (c.drawLines area entry).entries (area.row entry.length (area.height - entry.length)) rest

/-- A panel with entries. -/
def listPanel (c : Canvas) (area : Rect) (p : Panel) (entries : List (List Line)) : Canvas :=
  let inner := area.inner
  let c := c.panel area p
  if inner.width = 0 || inner.height = 0 then c else c.entries inner entries

end Canvas

end AuditDesk.Screen
