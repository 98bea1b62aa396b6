import AuditDesk.Json.Quoted
import AuditDesk.Json.Numeral

/-!
Reading any JSON value. Members keep their order and repetitions; `Value.settle` sorts them out.
-/
namespace AuditDesk.Json

namespace Reader

/-- A scalar whose first character is `c`, or nothing when a container or no value starts there. -/
def scalar? (c : Char) : Option (Reader Value) :=
  match c with
  | 'n' => some do skip; literal "ull".toList; yield .null
  | 't' => some do skip; literal "rue".toList; yield (.boolean true)
  | 'f' => some do skip; literal "alse".toList; yield (.boolean false)
  | '-' => some do skip; return .number (← unsignedNumber false)
  | '"' => some do return .string (← quoted)
  | _ => if c.isDigit then some do return .number (← unsignedNumber true) else none

/-- The items of an array whose opening bracket is the next byte. -/
def arrayOf (item : Reader Value) : Reader Value := do
  skip
  let found ← placed (closing (items (fun found => return (← item) :: found) []) closeArray)
  yield (.array found.reverse)

/-- The members of an object whose opening brace is the next byte. -/
def objectOf (item : Reader Value) : Reader Value := do
  skip
  let member (key : String) (found : List (String × Value)) : Reader (List (String × Value)) := do
    colon
    return (key, ← item) :: found
  let found ← placed (closing (members quoted member []) closeObject)
  yield (.object found.reverse)

/-- A value whose containers, if any may be opened, hold values read by `inner?`. -/
def valueOver (inner? : Option (Reader Value)) : Reader Value := do
  match ← lookPastBlanks with
  | none => failAhead .endOfValue
  | some c =>
      match scalar? c with
      | some scalar => scalar
      | none =>
          match c, inner? with
          | '[', some inner => arrayOf inner
          | '\x7b', some inner => objectOf inner
          | '[', none => failAhead .nestingLimit
          | '\x7b', none => failAhead .nestingLimit
          | _, _ => failAhead .expectedValue

/-- Reads a value in which at most `depth` containers are open at once. -/
def value : Nat → Reader Value
  | 0 => valueOver none
  | depth + 1 => valueOver (some (value depth))

end Reader

/-- Reads a text that holds one value. -/
def Value.ofText (text : String) : Except Failure Value :=
  Reader.whole (Reader.value Reader.nestingLimit) (Text.bytes text)

end AuditDesk.Json
