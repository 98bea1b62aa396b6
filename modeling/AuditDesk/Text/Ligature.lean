import AuditDesk.Text.Emoji

/-!
What follows a character, as far as it bears on the room that the character takes: a text is measured
from its end, and letters that are drawn as one, or pictures that are joined, take the room of one.
-/
namespace AuditDesk.Text

/-- Characters of no width that do not let letters join across them. -/
def separatingMarkRanges : Array (Nat × Nat) := #[
  (0x605, 0x605), (0x890, 0x891), (0x8E2, 0x8E2), (0x9BE, 0x9BE), (0x9D7, 0x9D7), (0xB3E, 0xB3E),
  (0xB57, 0xB57), (0xBBE, 0xBBE), (0xBD7, 0xBD7), (0xCC0, 0xCC0), (0xCC2, 0xCC2), (0xCC7, 0xCC8),
  (0xCCA, 0xCCB), (0xCD5, 0xCD6), (0xD3E, 0xD3E), (0xD4E, 0xD4E), (0xD57, 0xD57), (0xDCF, 0xDCF),
  (0xDDF, 0xDDF), (0x1160, 0x11FF), (0x180E, 0x180E), (0x1B35, 0x1B35), (0x1B3B, 0x1B3B),
  (0x1B3D, 0x1B3D), (0x1B43, 0x1B43), (0x200C, 0x200D), (0x2065, 0x2069), (0x302E, 0x302F),
  (0x3164, 0x3164), (0xA8FA, 0xA8FA), (0xD7B0, 0xD7C6), (0xD7CB, 0xD7FB), (0xFF9E, 0xFFA0),
  (0xFFF0, 0xFFF8), (0x111C2, 0x111C3), (0x1133E, 0x1133E), (0x11357, 0x11357),
  (0x114B0, 0x114B0), (0x114BD, 0x114BD), (0x115AF, 0x115AF), (0x11930, 0x11930),
  (0x1193F, 0x1193F), (0x11941, 0x11941), (0x11A3A, 0x11A3A), (0x11A84, 0x11A89),
  (0x11D46, 0x11D46), (0x11F02, 0x11F02), (0x1D165, 0x1D165), (0x1D16E, 0x1D172),
  (0xE0000, 0xE0000), (0xE0002, 0xE001F), (0xE0080, 0xE00FF), (0xE01F0, 0xE0FFF)]

/-- The last letter of letters that are drawn as one. -/
inductive LigatureTail where
  | lamed
  | ya
  /-- A vowel joined to a ya. -/
  | vowelYa
  | consonant
  /-- A sign that joins consonants, and the consonant behind it. -/
  | signConsonant
  | tone
  /-- A letter that can be put below another one. -/
  | subscript
  | orkhonI
deriving DecidableEq

/-- What stands behind a character. -/
inductive Following where
  | nothing
  | lineFeed
  | skinTone
  | regional
  | regionals
  | picture
  | joinedPicture
  | joinedKeycap
  | joinedRegional
  /-- Regional indicators before a joiner, of which there are more than one. -/
  | joinedRegionals (odd : Bool)
  /-- The end of a flag's code before a joiner, with so many letters or digits. -/
  | flagLetters (count : Nat)
  | flagDigits (count : Nat)
  | alef
  /-- The last letter of a ligature, perhaps behind a joiner. -/
  | tail (letter : LigatureTail) (joined : Bool)
deriving DecidableEq

/-- The selector between a character and what follows. -/
inductive Selector where
  | none
  | text
  | picture
deriving DecidableEq

structure Ahead where
  following : Following
  selector : Selector
deriving DecidableEq

def isRegional (c : Char) : Bool := 0x1F1E6 ≤ c.toNat && c.toNat ≤ 0x1F1FF

/-- Emoji modifiers, which are marks but take room when they stand beside a symbol. -/
def isSkinTone (c : Char) : Bool := 0x1F3FB ≤ c.toNat && c.toNat ≤ 0x1F3FF

def isTagLetter (c : Char) : Bool := 0xE0061 ≤ c.toNat && c.toNat ≤ 0xE007A

def isTagDigit (c : Char) : Bool := 0xE0030 ≤ c.toNat && c.toNat ≤ 0xE0039

def isSelectable (c : Char) : Bool := inRanges selectableRanges c

/-- A picture that a selector turns into text of half the width; those in squares are left alone. -/
def becomesText (c : Char) : Bool :=
  isSelectable c && inRanges pictureRanges c && !(0x1F200 ≤ c.toNat && c.toNat ≤ 0x1F2FF)

def isTifinagh (c : Char) : Bool :=
  (0x2D31 ≤ c.toNat && c.toNat ≤ 0x2D65) || c.toNat == 0x2D6F

def alefRanges : Array (Nat × Nat) := #[
  (0x622, 0x623), (0x625, 0x625), (0x627, 0x627), (0x671, 0x673), (0x675, 0x675), (0x773, 0x774),
  (0x870, 0x882)]

def lamRanges : Array (Nat × Nat) := #[
  (0x644, 0x644), (0x6B5, 0x6B8), (0x76A, 0x76A), (0x8A6, 0x8A6), (0x8C7, 0x8C7)]

def subscriptRanges : Array (Nat × Nat) := #[
  (0x1780, 0x1782), (0x1784, 0x1787), (0x1789, 0x178C), (0x178E, 0x1793), (0x1795, 0x1798),
  (0x179B, 0x179D), (0x17A0, 0x17A0), (0x17A2, 0x17A2), (0x17A7, 0x17A7), (0x17AB, 0x17AC),
  (0x17AF, 0x17AF)]

/-- Marks that may stand among the letters of a ligature. -/
def ligatureMarkRanges : Array (Nat × Nat) := #[
  (0x34F, 0x34F), (0x17B4, 0x17B5), (0x180B, 0x180D), (0x180F, 0x180F), (0x200D, 0x200D),
  (0xFE00, 0xFE0F), (0xE0100, 0xE01EF)]

/-- The letter of a ligature that is its last one. -/
def LigatureTail.ofChar? (c : Char) : Option LigatureTail :=
  match c with
  | '\u05DC' => some .lamed
  | '\u1A10' => some .ya
  | '\uA4FC' => some .tone
  | '\uA4FD' => some .tone
  | '𐰃' => some .orkhonI
  | c =>
      if isTifinagh c then some .consonant
      else if inRanges subscriptRanges c then some .subscript
      else none

namespace Ahead

def nothing : Ahead := ⟨.nothing, .none⟩

def of (following : Following) : Ahead := ⟨following, .none⟩

/-- What a character is to the one before it. -/
def ofChar (c : Char) : Ahead :=
  if c = '\uFE0F' then ⟨.nothing, .picture⟩
  else if c = '\uFE0E' then ⟨.nothing, .text⟩
  else if isSkinTone c then .of .skinTone
  else if isRegional c then .of .regional
  else if inRanges alefRanges c then .of .alef
  else
    match LigatureTail.ofChar? c with
    | some letter => .of (.tail letter false)
    | none => if inRanges pictureRanges c then .of .picture else .nothing

/-- Ligatures stay what they are behind a selector. -/
def isLigature (a : Ahead) : Bool :=
  match a.following with
  | .alef | .tail _ _ => true
  | _ => false

def isJoinedPicture (a : Ahead) : Bool :=
  a.following = .joinedPicture || a.following = .joinedKeycap

def select (a : Ahead) (selector : Selector) : Ahead :=
  if a.isLigature || (selector = .picture && a.isJoinedPicture) then { a with selector := selector }
  else ⟨.nothing, selector⟩

/-- What is left when a selector does not apply. -/
def unselected (a : Ahead) (selector : Selector) : Ahead :=
  if a.selector ≠ selector then a
  else if a.isLigature then { a with selector := .none }
  else .nothing

end Ahead

/-- The room of a character in front of a ligature's last letter, where it is not the usual one, and
what the two are to the character before them. -/
def beforeTail? (c : Char) (letter : LigatureTail) (joined : Bool) : Option (Int × Ahead) :=
  if c = '\u200D' then some (0, .of (.tail letter true))
  else if inRanges ligatureMarkRanges c then some (0, .of (.tail letter joined))
  else
    match letter, joined, c with
    | .lamed, true, '\u05D0' => some (0, .nothing)
    | .subscript, _, '\u17D2' => some (-1, .nothing)
    | .ya, true, '\u1A17' => some (0, .of (.tail .vowelYa true))
    | .vowelYa, _, '\u1A15' => some (0, .nothing)
    | .consonant, _, '\u2D7F' => some (1, .of (.tail .signConsonant true))
    | .orkhonI, true, '𐰲' => some (0, .nothing)
    | .consonant, true, c => if isTifinagh c then some (0, .nothing) else none
    | .signConsonant, _, c => if isTifinagh c then some (-1, .nothing) else none
    | .tone, _, c =>
        if 0xA4F8 ≤ c.toNat && c.toNat ≤ 0xA4FB then some (0, .nothing) else none
    | _, _, _ => none

/-- The room of a character in front of a picture that is joined to what is before it. -/
def beforeJoined? (c : Char) : Option (Int × Ahead) :=
  if c = '\u20E3' then some (0, .of .joinedKeycap)
  else if isRegional c then some (1, .of .joinedRegional)
  else if isSkinTone c then some (0, .of .skinTone)
  else if c.toNat = 0xE007F then some (0, .of (.flagLetters 0))
  else if inRanges pictureRanges c then some (0, .of .picture)
  else none

/-- The room of a character in front of the end of a flag's code. -/
def beforeFlagLetters? (c : Char) (count : Nat) : Option (Int × Ahead) :=
  if isTagLetter c && count < 6 then some (0, .of (.flagLetters (count + 1)))
  else if isTagDigit c && count < 5 then some (0, .of (.flagDigits 1))
  else if c = '🏴' && 3 ≤ count then some (0, .of .picture)
  else none

def beforeFlagDigits? (c : Char) (count : Nat) : Option (Int × Ahead) :=
  if isTagDigit c && count < 3 then some (0, .of (.flagDigits (count + 1)))
  else if c = '🏴' && count = 3 then some (0, .of .picture)
  else none

/-- The room of a character where what follows changes it. Two regional indicators are one flag, and a
joined flag takes no room of its own. -/
def beforeFollowing? (isMark : Char → Bool) (c : Char) : Following → Option (Int × Ahead)
  | .alef =>
      if inRanges lamRanges c then some (0, .nothing)
      else if isMark c && !inRanges separatingMarkRanges c then some (0, .of .alef)
      else none
  | .tail letter joined => beforeTail? c letter joined
  | .skinTone =>
      if inRanges tonedRanges c then some (0, .of .picture)
      else if c = '\u200D' then some (0, .of .joinedPicture)
      else none
  | .regional => if isRegional c then some (1, .of .regionals) else none
  | .regionals =>
      if isRegional c then some (1, .of .regionals)
      else if c = '\u200D' then some (0, .of .joinedPicture)
      else none
  | .picture => if c = '\u200D' then some (0, .of .joinedPicture) else none
  | .joinedPicture => beforeJoined? c
  | .joinedRegional => if isRegional c then some (-1, .of (.joinedRegionals false)) else none
  | .joinedRegionals odd =>
      if isRegional c then
        some (if odd then (-1, .of (.joinedRegionals false)) else (3, .of (.joinedRegionals true)))
      else if c = '\u200D' then some (0, .of .joinedPicture)
      else none
  | .flagLetters count => beforeFlagLetters? c count
  | .flagDigits count => beforeFlagDigits? c count
  | .nothing | .lineFeed | .joinedKeycap => none

end AuditDesk.Text
