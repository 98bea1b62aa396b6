import AuditDesk.Text.Composition
import AuditDesk.Text.Direction
import AuditDesk.Text.Folding
import AuditDesk.Text.Joiner
import AuditDesk.Text.Ligature
import AuditDesk.Text.Punycode
import AuditDesk.Text.Utf8

/-!
Names of hosts. A name is a row of labels with full stops between them; it may be written in any script,
and names that look alike are one name. Requests carry it in plain characters: a label of others is
written in code, behind a mark that says so.
-/
namespace AuditDesk.Service.DomainName

section Characters

/-- A full stop, in the shapes that it has in some scripts. -/
def isStop (c : Char) : Bool := c = '.' || c = '\u3002' || c = '\uFF0E' || c = '\uFF61'

/-- Plain characters that no name contains: white space, controls, and those that part the parts of an
address. -/
def isReserved (c : Char) : Bool :=
  c.toNat ≤ 0x20 || c.toNat = 0x7F ||
    ['%', '#', '/', ':', '<', '>', '?', '@', '[', '\\', ']', '^', '|'].contains c

/-- Characters without a shape, apart from joiners, and those that stand in for others. -/
def isShapeless (c : Char) : Bool :=
  c ≠ Text.joiner && c ≠ Text.nonJoiner &&
    ((Text.inRanges Text.blindRanges c && !Text.inRanges Text.laterAssignedRanges c) ||
      Text.inRanges Text.ignorableRanges c || c = '\uFFFC' || c = '\uFFFD' ||
      (0x2FF0 ≤ c.toNat && c.toNat ≤ 0x2FFB))

/-- Marks do not begin a label. -/
def isMark (c : Char) : Bool :=
  (Text.inRanges Text.extendRanges c || Text.inRanges Text.laterMarkRanges c ||
    Text.inRanges Text.spacingMarkRanges c || Text.inRanges Text.laterSpacingMarkRanges c) &&
    !Text.isSkinTone c

/-- The characters that one stands for in a name. One that contains a full stop and more, such as an
ellipsis, has no place there. -/
def reading? (c : Char) : Option (List Char) :=
  if isStop c then some ['.']
  else
    let cs := Text.folded c
    if cs.any fun c => isReserved c || isShapeless c || c = '.' then none else some cs

/-- A text in the form that all texts looking like it share. -/
def canonical? (cs : List Char) : Option (List Char) := do
  return Text.composed (← cs.mapM reading?).flatten

end Characters

section Labels

/-- What a label in code begins with. -/
def codeMark : List Char := ['x', 'n', '-', '-']

/-- The label that a written one stands for. Code that stands for plain characters, or for a label in
another form than the canonical one, is refused. -/
def revealed? (label : List Char) : Option (List Char) :=
  if codeMark.isPrefixOf label then do
    if label.all Text.Punycode.isPlain then
      let revealed ← Text.Punycode.decode? (label.drop codeMark.length)
      if revealed.all Text.Punycode.isPlain then none
      else if canonical? revealed = some revealed then some revealed
      else none
    else none
  else some label

/-- A label in plain characters. -/
def plain (label : List Char) : List Char :=
  if label.all Text.Punycode.isPlain then label else codeMark ++ Text.Punycode.encode label

/-- Labels have a direction as soon as one in the name is written from right to left. -/
def isSound (directed : Bool) (label : List Char) : Bool :=
  !label.head?.any isMark && Text.joinersCount [] label && (!directed || Text.isDirected label)

end Labels

/-- The name in plain characters. -/
def ofBytes? (encoded : List UInt8) : Option String := do
  let text ← Text.ofBytes? encoded
  let labels := (← canonical? text.toList).splitOn '.'
  let revealed ← labels.mapM revealed?
  let name := ".".intercalate (revealed.map fun label => String.ofList (plain label))
  if name.isEmpty || !revealed.all (isSound (Text.hasLeftward revealed.flatten)) then none
  else some name

end AuditDesk.Service.DomainName
