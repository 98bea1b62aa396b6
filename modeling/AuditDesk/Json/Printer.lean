import AuditDesk.Json.Value

/-!
Writing JSON, without white space (`compact`) or one member a line with an indent of two (`pretty`).
Only the quote, the backslash and the control characters up to U+001F are escaped.
-/
namespace AuditDesk.Json

def hexDigit (n : Nat) : Char :=
  if n < 10 then Char.ofNat (48 + n) else Char.ofNat (87 + n)

/-- A character as it stands between the quotes of a string. -/
def escapeChar (c : Char) : List Char :=
  if c = '"' then ['\\', '"']
  else if c = '\\' then ['\\', '\\']
  else if c = '\n' then ['\\', 'n']
  else if c = '\r' then ['\\', 'r']
  else if c = '\t' then ['\\', 't']
  else if c = '\x08' then ['\\', 'b']
  else if c = '\x0c' then ['\\', 'f']
  else if c.toNat < 0x20 then
    ['\\', 'u', '0', '0', hexDigit (c.toNat / 16), hexDigit (c.toNat % 16)]
  else [c]

def quotedChars (s : String) : List Char :=
  '"' :: (s.toList.flatMap escapeChar ++ ['"'])

namespace Value

mutual

def compactChars : Value → List Char
  | .null => "null".toList
  | .boolean true => "true".toList
  | .boolean false => "false".toList
  | .number n => n.text.toList
  | .string s => quotedChars s
  | .array items => '[' :: compactItems true items
  | .object members => '\x7b' :: compactMembers true members

/-- The items that are left, each but the first after a comma, and the closing bracket. -/
def compactItems (first : Bool) : List Value → List Char
  | [] => [']']
  | v :: rest => (if first then [] else [',']) ++ (compactChars v ++ compactItems false rest)

def compactMembers (first : Bool) : List (String × Value) → List Char
  | [] => ['\x7d']
  | (k, v) :: rest =>
      (if first then [] else [',']) ++
        (quotedChars k ++ ':' :: (compactChars v ++ compactMembers false rest))

end

/-- A line break and the indent of a nesting depth. -/
def lineBreak (depth : Nat) : List Char :=
  '\n' :: List.replicate (2 * depth) ' '

mutual

/-- An empty array or object stays on one line. -/
def prettyChars (depth : Nat) : Value → List Char
  | .array [] => ['[', ']']
  | .array items => '[' :: prettyItems depth true items
  | .object [] => ['\x7b', '\x7d']
  | .object members => '\x7b' :: prettyMembers depth true members
  | .null => "null".toList
  | .boolean true => "true".toList
  | .boolean false => "false".toList
  | .number n => n.text.toList
  | .string s => quotedChars s

def prettyItems (depth : Nat) (first : Bool) : List Value → List Char
  | [] => lineBreak depth ++ [']']
  | v :: rest =>
      (if first then [] else [',']) ++
        (lineBreak (depth + 1) ++ (prettyChars (depth + 1) v ++ prettyItems depth false rest))

def prettyMembers (depth : Nat) (first : Bool) : List (String × Value) → List Char
  | [] => lineBreak depth ++ ['\x7d']
  | (k, v) :: rest =>
      (if first then [] else [',']) ++
        (lineBreak (depth + 1) ++
          (quotedChars k ++ ':' :: ' ' :: (prettyChars (depth + 1) v ++ prettyMembers depth false rest)))

end

def compact (v : Value) : String := String.ofList v.compactChars

def pretty (v : Value) : String := String.ofList (v.prettyChars 0)

end Value

end AuditDesk.Json
