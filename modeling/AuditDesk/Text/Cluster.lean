import AuditDesk.Text.Conjunct

/-!
Characters as a reader sees them: clusters of code points between which a text may be cut. The rules
are those of extended grapheme clusters.
-/
namespace AuditDesk.Text

/-- What a code point does at the edges of a cluster. -/
inductive ClusterClass where
  | carriageReturn
  | lineFeed
  | unseen
  | extend
  | joiner
  | regional
  | prepend
  | spacingMark
  | leadingJamo
  | vowelJamo
  | trailingJamo
  | openSyllable
  | closedSyllable
  | pictograph
  | other
deriving DecidableEq

namespace ClusterClass

/-- Korean letters and syllables. -/
def ofKorean (n : Nat) : Option ClusterClass :=
  if (0x1100 ≤ n && n ≤ 0x115F) || (0xA960 ≤ n && n ≤ 0xA97C) then some .leadingJamo
  else if (0x1160 ≤ n && n ≤ 0x11A7) || (0xD7B0 ≤ n && n ≤ 0xD7C6) then some .vowelJamo
  else if (0x11A8 ≤ n && n ≤ 0x11FF) || (0xD7CB ≤ n && n ≤ 0xD7FB) then some .trailingJamo
  else if 0xAC00 ≤ n && n ≤ 0xD7A3 then
    some (if (n - 0xAC00) % 28 = 0 then .openSyllable else .closedSyllable)
  else none

def ofChar (c : Char) : ClusterClass :=
  let n := c.toNat
  if 0x20 ≤ n && n < 0x7F then .other
  else if n = 0x0D then .carriageReturn
  else if n = 0x0A then .lineFeed
  else if n = 0x200D then .joiner
  else if 0x1F1E6 ≤ n && n ≤ 0x1F1FF then .regional
  else if n = 0x16D63 || (0x16D67 ≤ n && n ≤ 0x16D6A) then .vowelJamo
  else
    match ofKorean n with
    | some k => k
    | none =>
        if inRanges extendRanges c || inRanges laterMarkRanges c then .extend
        else if inRanges unseenRanges c then .unseen
        else if inRanges spacingMarkRanges c || inRanges laterSpacingMarkRanges c then .spacingMark
        else if inRanges prependRanges c || n = 0x113D1 then .prepend
        else if inRanges pictographRanges c then .pictograph
        else .other

/-- Code points of this class stand alone. -/
def isAlone : ClusterClass → Bool
  | .carriageReturn | .lineFeed | .unseen => true
  | _ => false

end ClusterClass

/-- How much of a joined picture has just been read: a pictograph with its marks, or one with the
joiner behind it. -/
inductive Picture where
  | none
  | whole
  | joined
deriving DecidableEq

def Picture.after (picture : Picture) : ClusterClass → Picture
  | .pictograph => .whole
  | .extend => if picture = .whole then .whole else .none
  | .joiner => if picture = .whole then .joined else .none
  | _ => .none

/-- How much of a conjunct has just been read: a consonant with its marks, or one with a linker among
them. -/
inductive Conjunct where
  | none
  | letter
  | linked
deriving DecidableEq

def Conjunct.after (conjunct : Conjunct) (c : Char) (k : ClusterClass) : Conjunct :=
  if c.toNat < 0x300 then .none
  else if inRanges conjunctConsonantRanges c then .letter
  else if inRanges conjunctLinkerRanges c then (if conjunct = .none then .none else .linked)
  else if k = .joiner || (k = .extend && c ≠ '\u200C') then conjunct
  else .none

/-- What has to be known of the text read so far to tell whether its last cluster goes on. -/
structure ClusterEnd where
  last : ClusterClass
  picture : Picture
  conjunct : Conjunct
  /-- The number of regional indicators read last is odd. -/
  oddRegional : Bool
deriving DecidableEq

namespace ClusterEnd

def after (e : ClusterEnd) (c : Char) (k : ClusterClass) : ClusterEnd where
  last := k
  picture := e.picture.after k
  conjunct := e.conjunct.after c k
  oddRegional := k = .regional && !(e.last = .regional && e.oddRegional)

def start (c : Char) : ClusterEnd :=
  let k := ClusterClass.ofChar c
  ⟨k, Picture.none.after k, Conjunct.none.after c k, k = .regional⟩

/-- Korean letters join into syllables. -/
def joinsSyllable (last next : ClusterClass) : Bool :=
  match last, next with
  | .leadingJamo, .leadingJamo | .leadingJamo, .vowelJamo | .leadingJamo, .openSyllable
  | .leadingJamo, .closedSyllable => true
  | .openSyllable, .vowelJamo | .openSyllable, .trailingJamo | .vowelJamo, .vowelJamo
  | .vowelJamo, .trailingJamo => true
  | .closedSyllable, .trailingJamo | .trailingJamo, .trailingJamo => true
  | _, _ => false

/-- Whether the cluster goes on with a character of this class. -/
def joins (e : ClusterEnd) (c : Char) (k : ClusterClass) : Bool :=
  if e.last = .carriageReturn && k = .lineFeed then true
  else if e.last.isAlone || k.isAlone then false
  else
    k = .extend || k = .joiner || k = .spacingMark || e.last = .prepend || joinsSyllable e.last k ||
      (e.conjunct = .linked && inRanges conjunctConsonantRanges c) ||
      (e.picture = .joined && k = .pictograph) ||
      (e.last = .regional && e.oddRegional && k = .regional)

end ClusterEnd

/-- The clusters of a text whose first ones, up to `e`, end with `current`, both turned around. -/
private def clustersFrom (current : List Char) (e : ClusterEnd) : List Char → List (List Char)
  | [] => [current.reverse]
  | c :: rest =>
      let k := ClusterClass.ofChar c
      if e.joins c k then clustersFrom (c :: current) (e.after c k) rest
      else current.reverse :: clustersFrom [c] (e.after c k) rest

def clusters : List Char → List (List Char)
  | [] => []
  | c :: rest => clustersFrom [c] (.start c) rest

end AuditDesk.Text
