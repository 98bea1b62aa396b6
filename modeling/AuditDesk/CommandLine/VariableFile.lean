import AuditDesk.Text.Blank
import AuditDesk.Text.Letter
import AuditDesk.Text.Utf8

/-!
A file that sets variables, one on each line: a name, an equals sign and a value. A word `export` may
come first, and a comment may follow. A value can be quoted and can mention other variables. Lines
behind a faulty one count for nothing, and variables that are set already keep their values.
-/
namespace AuditDesk.CommandLine.VariableFile

/-- Names of variables with their values. -/
abbrev Variables := List (String × String)

/-- The quotes in which a part of a value stands. -/
inductive Quote where
  | none
  | weak
  | strong
deriving DecidableEq

/-- What the next character of a value belongs to. -/
inductive Phase where
  | text
  /-- A backslash came before it. -/
  | escape
  /-- The name of a variable behind a dollar sign, possibly in braces; its characters so far. -/
  | mention (braced : Bool) (name : List Char)
  /-- A blank ended the value. -/
  | ended
deriving DecidableEq

/-- A value that is being read; what is written is kept from the last character on. -/
structure Reading where
  written : List Char
  quote : Quote
  phase : Phase

namespace Reading

def start : Reading := ⟨[], .none, .text⟩

def write (r : Reading) (c : Char) : Reading := { r with written := c :: r.written, phase := .text }

/-- Puts the value of a variable in place of its name, nothing if it has none. -/
def mention (lookup : String → Option String) (name : List Char) (r : Reading) : Reading :=
  let value := (lookup (String.ofList name)).getD ""
  { r with written := value.toList.reverse ++ r.written, phase := .text }

/-- What a backslash and a character stand for. -/
def escaped? (c : Char) : Option Char :=
  if c = 'n' then some '\n'
  else if ['\\', '\'', '"', '$', ' '].contains c then some c
  else none

/-- Takes a character that stands for itself or marks something. -/
def take (r : Reading) (c : Char) : Reading :=
  match r.quote, c with
  | .strong, '\'' => { r with quote := .none }
  | .strong, c => r.write c
  | _, '$' => { r with phase := .mention false [] }
  | .weak, '"' => { r with quote := .none }
  | .none, '"' => { r with quote := .weak }
  | .none, '\'' => { r with quote := .strong }
  | _, '\\' => { r with phase := .escape }
  | .none, ' ' => { r with phase := .ended }
  | .none, '\t' => { r with phase := .ended }
  | _, c => r.write c

/-- Takes a character that may belong to the name of a variable. Names outside braces consist of letters
and numerals. -/
def takeName (lookup : String → Option String) (r : Reading) (braced : Bool) (name : List Char)
    (c : Char) : Reading :=
  if Text.isLetterOrNumeral c then { r with phase := .mention braced (name ++ [c]) }
  else if braced then
    if c = '\x7d' then r.mention lookup name else { r with phase := .mention true (name ++ [c]) }
  else if c = '\x7b' && name.isEmpty then { r with phase := .mention true [] }
  else
    let r := r.mention lookup name
    if c = '$' then { r with phase := .mention false [] } else r.write c

/-- The value that characters denote; nothing when they are faulty. -/
def run (lookup : String → Option String) : List Char → Reading → Option String
  | [], r =>
      match r.quote, r.phase with
      | .none, .mention true _ => none
      | .none, .mention false name => some (finished (r.mention lookup name))
      | .none, _ => some (finished r)
      | _, _ => none
  | c :: cs, r =>
      match r.phase with
      | .ended =>
          if c = ' ' || c = '\t' then run lookup cs r
          else if c = '#' then run lookup [] r
          else none
      | .escape => do run lookup cs (r.write (← escaped? c))
      | .mention braced name => run lookup cs (r.takeName lookup braced name c)
      | .text => run lookup cs (r.take c)
where
  finished (r : Reading) : String := String.ofList r.written.reverse

end Reading

def isNameStart (c : Char) : Bool := c.isAlpha || c = '_'
def isNamePart (c : Char) : Bool := c.isAlphanum || c = '_' || c = '.'

/-- Reads a name and the blanks behind it. -/
def name? (cs : List Char) : Option (List Char × List Char) :=
  if cs.head?.any isNameStart then
    some (cs.takeWhile isNamePart, (cs.dropWhile isNamePart).dropWhile Text.isBlank)
  else none

/-- What follows an equals sign and blanks. -/
def afterEquals? : List Char → Option (List Char)
  | '=' :: cs => some (cs.dropWhile Text.isBlank)
  | _ => none

/-- Reads a line that is neither blank nor a comment. -/
def assignment? (lookup : String → Option String) (cs : List Char) : Option (String × String) := do
  let (name, cs) ← name? cs
  let (name, cs) ←
    if name = "export".toList && (afterEquals? cs).isNone then name? cs else some (name, cs)
  let cs ← afterEquals? cs
  let value ← if cs.head?.all (· = '#') then some "" else Reading.run lookup cs .start
  return (String.ofList name, value)

/-- The variables that some lines set, in addition to those that are set already. -/
def readLines (outer : String → Option String) (set : Variables) : List String → Variables
  | [] => set
  | line :: rest =>
      let cs := (Text.trimChars line.toList)
      if cs.head?.all (· = '#') then readLines outer set rest
      else
        let known (name : String) : Option String := (outer name).or (set.lookup name)
        match assignment? known cs with
        | none => set
        | some (name, value) =>
            readLines outer (if (known name).isSome then set else (name, value) :: set) rest

/-- The lines of a file up to one that is not text. -/
def fileLines (content : List UInt8) : List String :=
  ((content.splitOn 10).map Text.ofBytes?).takeWhile Option.isSome |>.filterMap id

/-- The variables that are set or that a file sets in addition. -/
def extend (outer : String → Option String) (content : List UInt8) (name : String) : Option String :=
  (outer name).or ((readLines outer [] (fileLines content)).lookup name)

end AuditDesk.CommandLine.VariableFile
