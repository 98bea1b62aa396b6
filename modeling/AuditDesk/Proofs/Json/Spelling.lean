import AuditDesk.Json.ValueReader
import AuditDesk.Proofs.Json.Reading

/-! How JSON values are spelled, told without any reader. The spelling leaves room for what a reader may
refuse all the same: a number may be out of range, half of a surrogate pair may stand alone, and containers
may be nested to any depth. -/
namespace AuditDesk.Json.Spelling

structure Blanks where
  chars : List Char
  blank : ∀ c ∈ chars, IsBlank c

def Blanks.none : Blanks := ⟨[], List.forall_mem_nil _⟩

section Numbers

structure Digits where
  chars : List Char
  digit : ∀ c ∈ chars, c.isDigit = true
  nonempty : chars ≠ []

structure Exponent where
  mark : Char
  sign : List Char
  digits : Digits
  marks : mark = 'e' ∨ mark = 'E'
  signs : sign = [] ∨ sign = ['+'] ∨ sign = ['-']

/-- A number has no zero in front of another digit. -/
structure NumberText where
  negative : Bool
  whole : Digits
  fraction : Option Digits
  exponent : Option Exponent
  unpadded : whole.chars.head? = some '0' → whole.chars = ['0']

def Exponent.chars (e : Exponent) : List Char := e.mark :: (e.sign ++ e.digits.chars)

/-- An exponent that may be missing. -/
def exponentChars : Option Exponent → List Char
  | none => []
  | some e => e.chars

/-- A fraction, which may be missing, with its point. -/
def fractionChars : Option Digits → List Char
  | none => []
  | some ds => '.' :: ds.chars

namespace NumberText

variable (n : NumberText)

def scaleChars : List Char := fractionChars n.fraction ++ exponentChars n.exponent

def unsignedChars : List Char := n.whole.chars ++ n.scaleChars

def chars : List Char := if n.negative then '-' :: n.unsignedChars else n.unsignedChars

/-- The number, alone in a text, can be read. -/
def InRange : Prop := ∃ v, Value.ofText (String.ofList n.chars) = .ok v

end NumberText

end Numbers

section Texts

/-- A digit of either case in base sixteen. -/
abbrev HexDigit := { c : Char // c ∈ "0123456789abcdefABCDEF".toList }

def HexDigit.value (d : HexDigit) : Nat :=
  if d.1.isDigit then d.1.toNat - '0'.toNat
  else if d.1.isLower then d.1.toNat - 'a'.toNat + 10
  else d.1.toNat - 'A'.toNat + 10

/-- What the character behind a backslash stands for. -/
def escapes : List (Char × Char) :=
  [('"', '"'), ('\\', '\\'), ('/', '/'), ('b', '\x08'), ('f', '\x0c'), ('n', '\n'), ('r', '\r'), ('t', '\t')]

/-- A piece of a text between quotes. -/
inductive Piece where
  | plain (c : Char) (h : c ≠ '"' ∧ c ≠ '\\' ∧ ¬c.toNat < 0x20)
  | escape (sign stands : Char) (h : (sign, stands) ∈ escapes)
  | unicode (a b c d : HexDigit)

namespace Piece

def chars : Piece → List Char
  | .plain c _ => [c]
  | .escape sign _ _ => ['\\', sign]
  | .unicode a b c d => ['\\', 'u', a.1, b.1, c.1, d.1]

/-- The code unit of a spelled out one. -/
def unit (a b c d : HexDigit) : Nat := ((a.value * 16 + b.value) * 16 + c.value) * 16 + d.value

end Piece

open Quoted (isLeading isTrailing joined)

/-- The characters that are meant. Surrogates mean something in pairs only. -/
def meaning : List Piece → Option (List Char)
  | [] => some []
  | .plain c _ :: rest => (meaning rest).map (c :: ·)
  | .escape _ stands _ :: rest => (meaning rest).map (stands :: ·)
  | .unicode a b c d :: rest =>
      let first := Piece.unit a b c d
      if isTrailing first then none
      else if isLeading first then
        match rest with
        | .unicode a b c d :: rest =>
            let second := Piece.unit a b c d
            if isTrailing second then (meaning rest).map (Char.ofNat (joined first second) :: ·) else none
        | _ => none
      else (meaning rest).map (Char.ofNat first :: ·)

/-- The characters that stand for themselves, as pieces. -/
def plainly (cs : List Char) : List Piece :=
  cs.filterMap fun c => if h : c ≠ '"' ∧ c ≠ '\\' ∧ ¬c.toNat < 0x20 then some (.plain c h) else none

/-- The pieces between quotes. -/
def quotation (pieces : List Piece) : List Char := '"' :: (pieces.flatMap Piece.chars ++ ['"'])

end Texts

section Containers

/-- A value with white space around it. -/
structure Item where
  before : Blanks
  body : List Char
  behind : Blanks

/-- A key with white space around it, and its value behind a colon. -/
structure Member where
  before : Blanks
  key : List Piece
  named : Blanks
  item : Item

def Item.chars (i : Item) : List Char := i.before.chars ++ (i.body ++ i.behind.chars)

/-- The value of a member with its colon. -/
def Member.valued (m : Member) : List Char := m.named.chars ++ ':' :: (m.item.before.chars ++ m.item.body)

def Member.chars (m : Member) : List Char :=
  m.before.chars ++ (quotation m.key ++ (m.valued ++ m.item.behind.chars))

/-- Parts with a comma in front of each, the first excepted. -/
def separated (first : Bool) : List (List Char) → List Char
  | [] => []
  | part :: rest => (if first then [] else [',']) ++ (part ++ separated false rest)

/-- Items up to the closing bracket. -/
def itemsChars (first : Bool) (items : List Item) (inside : Blanks) : List Char :=
  separated first (items.map Item.chars) ++ (inside.chars ++ [']'])

/-- Members up to the closing brace. -/
def membersChars (first : Bool) (members : List Member) (inside : Blanks) : List Char :=
  separated first (members.map Member.chars) ++ (inside.chars ++ ['\x7d'])

def arrayChars (items : List Item) (inside : Blanks) : List Char := '[' :: itemsChars true items inside

def objectChars (members : List Member) (inside : Blanks) : List Char :=
  '\x7b' :: membersChars true members inside

end Containers

/-- The numbers and texts that are admitted. -/
structure Admission where
  number : NumberText → Prop
  text : List Piece → Prop

namespace Admission

def any : Admission := ⟨fun _ => True, fun _ => True⟩

/-- Numbers in range, and texts that mean something. -/
def meant : Admission := ⟨NumberText.InRange, fun pieces => (meaning pieces).isSome⟩

end Admission

/-- A value is spelled by these characters, with at most so many containers open at once. -/
inductive Spelled (admitted : Admission) : Nat → List Char → Prop
  | null {depth : Nat} : Spelled admitted depth "null".toList
  | yes {depth : Nat} : Spelled admitted depth "true".toList
  | no {depth : Nat} : Spelled admitted depth "false".toList
  | number {depth : Nat} {n : NumberText} (h : admitted.number n) : Spelled admitted depth n.chars
  | string {depth : Nat} {pieces : List Piece} (h : admitted.text pieces) :
      Spelled admitted depth (quotation pieces)
  | array {depth : Nat} {items : List Item} {inside : Blanks}
      (h : ∀ i ∈ items, Spelled admitted depth i.body) :
      Spelled admitted (depth + 1) (arrayChars items inside)
  | object {depth : Nat} {members : List Member} {inside : Blanks} (hKeys : ∀ m ∈ members, admitted.text m.key)
      (h : ∀ m ∈ members, Spelled admitted depth m.item.body) :
      Spelled admitted (depth + 1) (objectChars members inside)

/-- A value is spelled, whatever its numbers and texts and however deep it is. -/
def WellFormed (cs : List Char) : Prop := ∃ depth, Spelled .any depth cs

/-- A value is spelled that has numbers in range, texts that mean something and at most so many containers
open at once. -/
def Readable (depth : Nat) (cs : List Char) : Prop := Spelled .meant depth cs

section Depth

variable {admitted : Admission} {depth : Nat} {cs : List Char}

theorem Spelled.mono (h : Spelled admitted depth cs) {limit : Nat} (hDepth : depth ≤ limit) :
    Spelled admitted limit cs := by
  induction h generalizing limit with
  | null => exact .null
  | yes => exact .yes
  | no => exact .no
  | number hAdmitted => exact .number hAdmitted
  | string hAdmitted => exact .string hAdmitted
  | array _ ih =>
      obtain ⟨limit, rfl⟩ : ∃ n, limit = n + 1 := ⟨limit - 1, by omega⟩
      exact .array fun i hi => ih i hi (Nat.le_of_succ_le_succ hDepth)
  | object hKeys _ ih =>
      obtain ⟨limit, rfl⟩ : ∃ n, limit = n + 1 := ⟨limit - 1, by omega⟩
      exact .object hKeys fun m hm => ih m hm (Nat.le_of_succ_le_succ hDepth)

/-- Of finitely many values one is the deepest. -/
theorem common_depth {ι : Type} (body : ι → List Char) {parts : List ι} (h : ∀ i ∈ parts, WellFormed (body i)) :
    ∃ depth, ∀ i ∈ parts, Spelled .any depth (body i) := by
  induction parts with
  | nil => exact ⟨0, List.forall_mem_nil _⟩
  | cons i parts ih =>
      obtain ⟨depth, hRest⟩ := ih fun j hj => h j (List.mem_cons_of_mem _ hj)
      obtain ⟨first, hFirst⟩ := h i List.mem_cons_self
      refine ⟨max first depth, List.forall_mem_cons.mpr ⟨hFirst.mono (Nat.le_max_left _ _), fun j hj => ?_⟩⟩
      exact (hRest j hj).mono (Nat.le_max_right _ _)

theorem wellFormed_object {members : List Member} (h : ∀ m ∈ members, WellFormed m.item.body) (inside : Blanks) :
    WellFormed (objectChars members inside) := by
  obtain ⟨depth, hMembers⟩ := common_depth (fun m : Member => m.item.body) h
  exact ⟨depth + 1, .object (fun _ _ => trivial) hMembers⟩

end Depth

end AuditDesk.Json.Spelling
