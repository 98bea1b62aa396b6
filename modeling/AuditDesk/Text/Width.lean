import AuditDesk.Text.Cluster
import AuditDesk.Text.Ligature

/-!
The number of cells that text takes on a screen of equal cells.
-/
namespace AuditDesk.Text

/-- Some characters of no width that the general rules do not cover. -/
def narrowRanges : Array (Nat × Nat) := #[
  (0x605, 0x605), (0x70F, 0x70F), (0x890, 0x891), (0x8E2, 0x8E2), (0xCC0, 0xCC0), (0xCC7, 0xCC8),
  (0xCCA, 0xCCB), (0xD4E, 0xD4E), (0x1B3B, 0x1B3B), (0x1B3D, 0x1B3D), (0x1B43, 0x1B43),
  (0xA8FA, 0xA8FA), (0x111C2, 0x111C3), (0x1193F, 0x1193F), (0x11941, 0x11941),
  (0x11A3A, 0x11A3A), (0x11A84, 0x11A89), (0x11D46, 0x11D46), (0x11F02, 0x11F02)]

/-- The later letters of a Korean syllable. -/
def isLaterJamo (c : Char) : Bool :=
  match ClusterClass.ofKorean c.toNat with
  | some .vowelJamo | some .trailingJamo => true
  | _ => false

/-- Marks, invisible characters and the later letters of a Korean syllable take no cell; wide characters
take two, and a sign that stands for a whole word takes three. Control characters take one. -/
def charWidth (c : Char) : Nat :=
  let n := c.toNat
  if n ≤ 0xA0 || n = 0x2D7F then 1
  else if isSkinTone c || n = 0x115F || n = 0x17A4 then 2
  else if n = 0x17D8 then 3
  else if isLaterJamo c || inRanges extendRanges c || inRanges ignorableRanges c ||
      inRanges narrowRanges c then 0
  else if inRanges wideRanges c || inRanges laterWideRanges c then 2
  else 1

/-- The room that a character adds in front of a text, and what the two are to the character before. The
end of a line takes none. -/
def widthBefore (c : Char) (ahead : Ahead) : Int × Ahead :=
  if ahead.selector = .picture && isSelectable c then
    (if ahead.isJoinedPicture then 0 else 2, .of .picture)
  else
    let ahead := ahead.unselected .picture
    if c.toNat ≤ 0xA0 then
      if c = '\n' then (0, .of .lineFeed)
      else if c = '\r' && ahead = .of .lineFeed then (0, .nothing)
      else (1, .nothing)
    else if ahead ≠ .nothing && c = '\uFE0F' then (0, ahead.select .picture)
    else if ahead ≠ .nothing && c = '\uFE0E' then (0, ahead.select .text)
    else if ahead.selector = .text && becomesText c then (1, .nothing)
    else
      match beforeFollowing? (charWidth · = 0) c (ahead.unselected .text).following with
      | some result => result
      | none => (charWidth c, .ofChar c)

def charsWidth (cs : List Char) : Nat :=
  (cs.foldr (fun c (state : Int × Ahead) =>
    let (added, ahead) := widthBefore c state.2
    (state.1 + added, ahead)) (0, .nothing)).1.toNat

/-- The width of a text as a whole. -/
def width (s : String) : Nat := charsWidth s.toList

/-- A cluster of a text with its width. -/
structure Glyph where
  text : String
  width : Nat
deriving DecidableEq

/-- The clusters of a text; line feeds are left out. -/
def glyphs (s : String) : List Glyph :=
  ((clusters s.toList).filter (· ≠ ['\n'])).map fun cluster =>
    ⟨String.ofList cluster, charsWidth cluster⟩

end AuditDesk.Text
