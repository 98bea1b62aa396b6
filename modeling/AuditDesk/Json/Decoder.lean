import AuditDesk.Json.Skip
import AuditDesk.Json.ValueReader

/-!
Typed decoding. A decoder answers the same question in three situations: while a text is being read,
for a value that was read and settled before, and for a value that was read whole because its kind
had to be found out first. The first two say what is wrong; the third only says that it does not fit.
-/
namespace AuditDesk.Json

structure Decoder (α : Type) where
  /-- Decodes from a text in which so many containers may still be opened. -/
  text : Nat → Reader α
  kept : Value → Except Cause α
  buffered : Value → Option α

namespace Reader

variable {α : Type}

/-- Reports the kind of the value that starts here. Scalars are read first, containers are not. -/
def mismatch (expected : String) : Reader α := placed do
  match ← lookPastBlanks with
  | none => failAhead .endOfValue
  | some '[' => failUnplaced (.wrongType .sequence expected)
  | some '\x7b' => failUnplaced (.wrongType .map expected)
  | some c =>
      match scalar? c with
      | some scalar => do
          let v ← scalar
          failUnplaced (.wrongType v.found expected)
      | none => failAhead .expectedValue

def ofExcept : Except Cause α → Reader α
  | .ok a => yield a
  | .error cause => failUnplaced cause

end Reader

namespace Decoder

open Reader

variable {α β σ : Type}

def map (f : α → β) (d : Decoder α) : Decoder β where
  text depth := do return f (← d.text depth)
  kept v := do return f (← d.kept v)
  buffered v := (d.buffered v).map f

/-- Any value at all, settled. -/
def any : Decoder Value where
  text depth := do return (← value depth).settle
  kept v := .ok v
  buffered v := some v.settle

def string : Decoder String where
  text _ := do
    match ← lookPastBlanks with
    | some '"' => quoted
    | none => failAhead .endOfValue
    | some _ => mismatch "a string"
  kept
    | .string s => .ok s
    | v => .error (.wrongType v.found "a string")
  buffered
    | .string s => some s
    | _ => none

/-- `null` stands for nothing. -/
def optional (d : Decoder α) : Decoder (Option α) where
  text depth := do
    match ← lookPastBlanks with
    | some 'n' => do
        skip
        literal "ull".toList
        yield none
    | _ => return some (← d.text depth)
  kept
    | .null => .ok none
    | v => do return some (← d.kept v)
  buffered
    | .null => some none
    | v => (d.buffered v).map some

def list (d : Decoder α) : Decoder (List α) where
  text depth := do
    match ← lookPastBlanks with
    | none => failAhead .endOfValue
    | some '[' => nested depth fun depth => do
        skip
        let found ← placed (closing
          (items (fun found => return (← d.text depth) :: found) []) closeArray)
        yield found.reverse
    | some _ => mismatch "a sequence"
  kept
    | .array items => items.mapM d.kept
    | v => .error (.wrongType v.found "a sequence")
  buffered
    | .array items => items.mapM d.buffered
    | _ => none

/-- A value whose kind decides what it is: it is read whole and then tried. -/
def tried (name : String) (choose : Value → Option α) : Decoder α where
  text depth := do
    match choose (← value depth) with
    | some a => yield a
    | none => failUnplaced (.noVariant name)
  kept v :=
    match choose v with
    | some a => .ok a
    | none => .error (.noVariant name)
  buffered := choose

section Choice

/-- The names of a choice, quoted and joined by `or`. -/
def choiceText (names : List String) : String :=
  " or ".intercalate (names.map fun name => "`" ++ name ++ "`")

def chosen (choices : List (String × α)) (name : String) : Except Cause α :=
  match choices.lookup name with
  | some a => .ok a
  | none => .error (.unknownVariant name (choiceText (choices.map Prod.fst)))

/-- The key of the only member of an object; there has to be one. -/
def onlyKey : Reader String := do
  match ← lookPastBlanks with
  | some '"' => quoted
  | some '\x7d' => failAhead .expectedValue
  | some _ => failAhead .keyMustBeString
  | none => failAhead .endOfObject

def nullOnly : Reader Unit := do
  match ← lookPastBlanks with
  | some 'n' => do
      skip
      literal "ull".toList
  | none => failAhead .endOfValue
  | some _ => mismatch "unit"

/-- One of some names, or an object whose only member has such a name and the value `null`. -/
def choice (choices : List (String × α)) : Decoder α where
  text depth := do
    match ← lookPastBlanks with
    | none => failAhead .endOfValue
    | some '"' => placed do ofExcept (chosen choices (← quoted))
    | some '\x7b' => nested depth fun _ => do
        skip
        let a ← placed do ofExcept (chosen choices (← onlyKey))
        colon
        nullOnly
        match ← lookPastBlanks with
        | some '\x7d' => skip
        | some _ => failHere .expectedValue
        | none => failHere .endOfObject
        yield a
    | some _ => failAhead .expectedValue
  kept
    | .string s => chosen choices s
    | .object [(name, v)] => do
        let a ← chosen choices name
        match v with
        | .null => .ok a
        | v => .error (.wrongType v.found "unit")
    | .object _ => .error (.wrongValue "map" "map with a single key")
    | v => .error (.wrongType v.found "string or map")
  buffered
    | .string s => (chosen choices s).toOption
    | .object [(name, .null)] => (chosen choices name).toOption
    | _ => none

end Choice

end Decoder

/-- A field of a record that is being filled in. `put` is called once, with the decoded value. -/
structure Field (σ : Type) where
  name : String
  /-- Further spellings of the key; failures name the field itself. -/
  aliases : List String
  /-- The field may be missing at the end of a record written as an array. -/
  mayEnd : Bool
  isSet : σ → Bool
  filled : Decoder (σ → σ)

namespace Field

variable {σ β : Type}

def of (name : String) (aliases : List String) (mayEnd : Bool) (d : Decoder β)
    (get : σ → Option β) (put : β → σ → σ) : Field σ where
  name := name
  aliases := aliases
  mayEnd := mayEnd
  isSet s := (get s).isSome
  filled := d.map put

def named (key : String) (f : Field σ) : Bool := f.name = key || f.aliases.contains key

end Field

/-- A record is written as an object of its fields, in any order and among others, or as an array of
its fields in the order of declaration. -/
structure RecordForm (σ α : Type) where
  name : String
  fields : List (Field σ)
  empty : σ
  build : σ → Except Cause α

namespace RecordForm

open Reader

variable {σ α : Type}

def described (form : RecordForm σ α) : String := "struct " ++ form.name

def withLength (form : RecordForm σ α) : String :=
  form.described ++ " with " ++ toString form.fields.length ++
    (if form.fields.length = 1 then " element" else " elements")

def tooShort (form : RecordForm σ α) (length : Nat) : Cause :=
  .wrongLength length form.withLength

def field? (form : RecordForm σ α) (key : String) : Option (Field σ) :=
  form.fields.find? (·.named key)

section Text

variable (form : RecordForm σ α)

/-- A key decides which field its value fills; a second value for a field is refused unread. -/
def readMember (depth : Nat) (key : String) (s : σ) : Reader σ :=
  match form.field? key with
  | none => do
      colon
      skipValue
      yield s
  | some f =>
      if f.isSet s then failUnplaced (.repeatedField f.name)
      else do
        colon
        let put ← f.filled.text depth
        yield (put s)

def readItems (depth index : Nat) (first : Bool) : List (Field σ) → σ → Reader σ
  | [], s => yield s
  | f :: fields, s => do
      if ← nextItem first then
        let put ← f.filled.text depth
        readItems depth (index + 1) false fields (put s)
      else if f.mayEnd then readItems depth (index + 1) first fields s
      else failUnplaced (form.tooShort index)

def readText (depth : Nat) : Reader α := do
  match ← lookPastBlanks with
  | none => failAhead .endOfValue
  | some '[' => nested depth fun depth => do
      skip
      placed (closing
        (do ofExcept (form.build (← form.readItems depth 0 true form.fields form.empty)))
        closeArray)
  | some '\x7b' => nested depth fun depth => do
      skip
      placed (closing
        (do ofExcept (form.build (← members quoted (form.readMember depth) form.empty)))
        closeObject)
  | some _ => mismatch form.described

end Text

section Kept

variable (form : RecordForm σ α)

def keepMember (s : σ) (member : String × Value) : Except Cause σ :=
  match form.field? member.1 with
  | none => .ok s
  | some f =>
      if f.isSet s then .error (.repeatedField f.name)
      else do return (← f.filled.kept member.2) s

/-- The record so far and the items left over. -/
def keepItems (index : Nat) : List (Field σ) → List Value → σ → Except Cause (σ × List Value)
  | [], items, s => .ok (s, items)
  | f :: fields, v :: items, s => do keepItems (index + 1) fields items ((← f.filled.kept v) s)
  | f :: fields, [], s =>
      if f.mayEnd then keepItems (index + 1) fields [] s else .error (form.tooShort index)

def keep : Value → Except Cause α
  | .object members => do form.build (← members.foldlM form.keepMember form.empty)
  | .array items => do
      let (s, left) ← form.keepItems 0 form.fields items form.empty
      let a ← form.build s
      if left.isEmpty then .ok a
      else .error (.wrongLength items.length "fewer elements in array")
  | v => .error (.wrongType v.found form.described)

end Kept

section Buffered

variable (form : RecordForm σ α)

def bufferMember (s : σ) (member : String × Value) : Option σ :=
  match form.field? member.1 with
  | none => some s
  | some f => if f.isSet s then none else do return (← f.filled.buffered member.2) s

def bufferItems : List (Field σ) → List Value → σ → Option (σ × List Value)
  | [], items, s => some (s, items)
  | f :: fields, v :: items, s => do bufferItems fields items ((← f.filled.buffered v) s)
  | f :: fields, [], s => if f.mayEnd then bufferItems fields [] s else none

def buffer : Value → Option α
  | .object members => do (form.build (← members.foldlM form.bufferMember form.empty)).toOption
  | .array items => do
      let (s, left) ← bufferItems form.fields items form.empty
      if left.isEmpty then (form.build s).toOption else none
  | _ => none

end Buffered

def decoder (form : RecordForm σ α) : Decoder α where
  text := form.readText
  kept := form.keep
  buffered := form.buffer

end RecordForm

/-- The value of a field that must be present. -/
def required {β : Type} (name : String) : Option β → Except Cause β
  | some b => .ok b
  | none => .error (.missingField name)

namespace Decoder

variable {α : Type}

/-- Decodes a whole text given by its bytes. -/
def ofBytes (d : Decoder α) (bytes : List UInt8) : Except Failure α :=
  Reader.whole (d.text Reader.nestingLimit) bytes

/-- Decodes a whole text. -/
def ofText (d : Decoder α) (text : String) : Except Failure α := d.ofBytes (Text.bytes text)

/-- Decodes a value read before. -/
def ofValue (d : Decoder α) (v : Value) : Except Failure α :=
  (d.kept v.settle).mapError fun cause => ⟨cause, none⟩

end Decoder

end AuditDesk.Json
