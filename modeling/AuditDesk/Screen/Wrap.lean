import AuditDesk.Screen.Line
import AuditDesk.Text.Blank

/-!
Breaking a line between words so that each part fits a width. Blanks at a break are dropped, and so
are those at the beginning of a part; a word that is too long is broken where it stops fitting.
-/
namespace AuditDesk.Screen

open Text

abbrev StyledGlyph := Glyph × Style

/-- White space where a line may be broken; the space that forbids breaks is not, and the one of no
width is. -/
def breaksLine (glyph : Glyph) : Bool :=
  glyph.text = "\u200b" || (glyph.text.toList.all isBlank && glyph.text ≠ "\u00a0")

def totalWidth (glyphs : List StyledGlyph) : Nat := glyphs.foldl (fun width g => width + g.1.width) 0

namespace Wrap

/-- How far a line has been broken. Finished parts are kept last first. -/
structure State where
  finished : List (List StyledGlyph)
  /-- The part that is being filled. -/
  line : List StyledGlyph
  /-- Blanks behind it, which are kept if another word follows on the same part. -/
  blanks : List StyledGlyph
  /-- The word that is being read. -/
  word : List StyledGlyph
  /-- The glyph read last belongs to a word. -/
  afterWord : Bool

def start : State := ⟨[], [], [], [], false⟩

/-- Moves the word that has been read to the end of the part; blanks go with it unless they would
come first. -/
def commit (s : State) : State :=
  { s with
    line := if s.line.isEmpty then s.word else s.line ++ s.blanks ++ s.word
    blanks := []
    word := [] }

/-- The glyphs left when those that fit into a width are dropped from the front. -/
def dropFitting (room : Nat) : List StyledGlyph → List StyledGlyph
  | [] => []
  | g :: rest => if g.1.width ≤ room then dropFitting (room - g.1.width) rest else g :: rest

/-- Finishes the part that is being filled, with the blanks that still fit it. -/
def finish (limit : Nat) (s : State) : State :=
  { s with
    finished := s.line :: s.finished
    line := []
    blanks := dropFitting (limit - totalWidth s.line) s.blanks }

def step (limit : Nat) (s : State) (g : StyledGlyph) : State :=
  let width := g.1.width
  let blank := breaksLine g.1
  if limit < width then s
  else
    let ends := s.afterWord && blank
    let overflows := s.line.isEmpty &&
      (limit < totalWidth s.word + width || limit < totalWidth s.blanks + width)
    let s := if ends || overflows then commit s else s
    let filled := limit ≤ totalWidth s.line
    let noRoom := 0 < width && limit ≤ totalWidth s.line + totalWidth s.blanks + totalWidth s.word
    let breaks := filled || noRoom
    let s := if breaks then finish limit s else s
    if breaks && blank && s.blanks.isEmpty then s
    else if blank then { s with blanks := s.blanks ++ [g], afterWord := false }
    else { s with word := s.word ++ [g], afterWord := true }

/-- The parts once the whole line has been read; there is always one. -/
def State.parts (s : State) : List (List StyledGlyph) :=
  let onlyBlanks := s.line.isEmpty && s.word.isEmpty && !s.blanks.isEmpty
  let finished := if onlyBlanks then [] :: s.finished else s.finished
  let last := (commit s).line
  let all := if last.isEmpty then finished else last :: finished
  if all.isEmpty then [[]] else all.reverse

end Wrap

/-- Breaks a line into parts that fit a width. -/
def wrap (limit : Nat) (line : List StyledGlyph) : List (List StyledGlyph) :=
  (line.foldl (Wrap.step limit) Wrap.start).parts

/-- The longest beginning that fits a width. -/
def fitting (room : Nat) : List StyledGlyph → List StyledGlyph
  | [] => []
  | g :: rest => if g.1.width ≤ room then g :: fitting (room - g.1.width) rest else []

/-- The beginning of a line that fits a width; a glyph that is wider than all of it is left out. -/
def cut (limit : Nat) (line : List StyledGlyph) : List StyledGlyph :=
  fitting limit (line.filter fun g => g.1.width ≤ limit)

end AuditDesk.Screen
