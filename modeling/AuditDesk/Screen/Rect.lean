/-!
Rectangles of cells, and how a length is divided among parts. Positions are numbers of 16 bits: nothing
is to the right of or below the last of them.
-/
namespace AuditDesk.Screen

structure Rect where
  x : Nat
  y : Nat
  width : Nat
  height : Nat
deriving DecidableEq

namespace Rect

/-- The largest position, and the largest number of cells in a rectangle. -/
def limit : Nat := 65535

/-- A rectangle of at most `limit` cells. A larger one shrinks and keeps its proportions. -/
def ofSize (x y width height : Nat) : Rect :=
  if width * height ≤ limit then ⟨x, y, width, height⟩
  else
    let aspect := Float.ofNat width / Float.ofNat height
    let least := (Float.ofNat limit / aspect).sqrt
    ⟨x, y, (least * aspect).toUInt16.toNat, least.toUInt16.toNat⟩

def right (r : Rect) : Nat := min limit (r.x + r.width)
def bottom (r : Rect) : Nat := min limit (r.y + r.height)

/-- What a border of one cell leaves. -/
def inner (r : Rect) : Rect :=
  if r.width < 2 || r.height < 2 then ⟨r.x, r.y, 0, 0⟩
  else ⟨r.x + 1, r.y + 1, r.width - 2, r.height - 2⟩

/-- The columns from `start` on, `width` of them. -/
def column (r : Rect) (start width : Nat) : Rect := { r with x := r.x + start, width := width }

/-- The rows from `start` on, `height` of them. -/
def row (r : Rect) (start height : Nat) : Rect := { r with y := r.y + start, height := height }

end Rect

/-- A part of a length: its start and its size. -/
structure Span where
  start : Nat
  size : Nat
deriving DecidableEq

/-- The whole number nearest to `numerator / denominator`, a half going up. -/
def roundedQuotient (numerator denominator : Nat) : Nat :=
  (2 * numerator + denominator) / (2 * denominator)

/-- Divides a length by percentages that add up to at most a hundred. The ends of the parts are
rounded, not their sizes, so that the parts join without gaps. -/
def percentSpans (length : Nat) (percentages : List Nat) : List Span :=
  (percentages.foldl
    (fun (state : List Span × Nat) percentage =>
      let total := state.2 + percentage
      let start := roundedQuotient (length * state.2) 100
      (⟨start, roundedQuotient (length * total) 100 - start⟩ :: state.1, total))
    ([], 0)).1.reverse

/-- The middle part when the rest of a hundred percent is halved around it, each half rounded down to
a whole percentage. -/
def middleSpan (length percentage : Nat) : Span :=
  let margin := (100 - percentage) / 2
  match percentSpans length [margin, percentage, margin] with
  | [_, middle, _] => middle
  | _ => ⟨0, 0⟩

/-- Divides a length evenly; the ends of the parts are rounded, so that the parts join. -/
def evenSpans (length count : Nat) : List Span :=
  (List.range count).map fun i =>
    let start := roundedQuotient (length * i) count
    ⟨start, roundedQuotient (length * (i + 1)) count - start⟩

/-- Parts of equal size, one behind the other; when there is no room for them, they share what there
is. -/
def equalSpans (length size count : Nat) : List Span :=
  if size * count ≤ length then (List.range count).map fun i => ⟨i * size, size⟩
  else evenSpans length count

/-- A part that takes what is left and has at least `least`, and `count` parts of a fixed size behind
it, each after a gap of one. When there is no room the fixed parts share what is left. -/
def tableSpans (length least size count : Nat) : List Span :=
  let room := length - count
  if count * size + least ≤ room then
    let first := room - count * size
    ⟨0, first⟩ :: (List.range count).map fun i => ⟨first + 1 + i * (size + 1), size⟩
  else
    let first := min least room
    ⟨0, first⟩ :: (evenSpans (room - first) count).mapIdx fun i span =>
      ⟨first + 1 + i + span.start, span.size⟩

/-- The columns of a rectangle that a part of its width covers. -/
def Rect.columns (r : Rect) (span : Span) : Rect := r.column span.start span.size

/-- The rows of a rectangle that a part of its height covers. -/
def Rect.rows (r : Rect) (span : Span) : Rect := r.row span.start span.size

/-- The last `width` columns of a rectangle, or all when there are fewer, and those before them. -/
def Rect.splitRight (r : Rect) (width : Nat) : Rect × Rect :=
  let right := min width r.width
  (r.column 0 (r.width - right), r.column (r.width - right) right)

/-- The last `height` rows of a rectangle, or all when there are fewer, and those above them. -/
def Rect.splitBottom (r : Rect) (height : Nat) : Rect × Rect :=
  let bottom := min height r.height
  (r.row 0 (r.height - bottom), r.row (r.height - bottom) bottom)

/-- Two columns, of which the first takes a percentage of the width. -/
def Rect.splitPercent (r : Rect) (percentage : Nat) : Rect × Rect :=
  let first := roundedQuotient (r.width * percentage) 100
  (r.column 0 first, r.column first (r.width - first))

/-- The area of a dialog that takes percentages of the screen. -/
def Rect.centered (r : Rect) (percentX percentY : Nat) : Rect :=
  let rows := middleSpan (r.bottom - r.y) percentY
  let columns := middleSpan (r.right - r.x) percentX
  (r.row rows.start rows.size).column columns.start columns.size

end AuditDesk.Screen
