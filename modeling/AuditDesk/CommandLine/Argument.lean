import AuditDesk.Language

/-!
Words of a command line that are read as values of some kind.
-/
namespace AuditDesk.CommandLine

/-- Why a word is not a number. -/
inductive NumberError where
  | empty
  | digit
  | tooLarge
deriving DecidableEq

def NumberError.message : NumberError → String
  | .empty => "cannot parse integer from empty string"
  | .digit => "invalid digit found in string"
  | .tooLarge => "number too large to fit in target type"

/-- The greatest number that can be given. -/
def greatestNumber : Nat := 18446744073709551615

/-- Reads digits from the left; what stands in the way first is told. -/
def readDigits (value : Nat) : List Char → Except NumberError Nat
  | [] => .ok value
  | c :: cs =>
      if !c.isDigit then .error .digit
      else
        let value := 10 * value + (c.toNat - 48)
        if greatestNumber < value then .error .tooLarge else readDigits value cs

/-- Reads a number, which may have a plus sign. -/
def readNumber (word : String) : Except NumberError Nat :=
  match word.toList with
  | [] => .error .empty
  | ['+'] => .error .digit
  | '+' :: digits => readDigits 0 digits
  | digits => readDigits 0 digits

/-- The kinds of values. -/
inductive ValueKind where
  | text
  | path
  | language
  | exportFormat
  | number
deriving DecidableEq

inductive Argument where
  | text (given : String)
  | path (given : String)
  | language (l : Language)
  | exportFormat (f : ExportFormat)
  | number (n : Nat)
deriving DecidableEq

/-- Why a word is not a value of the kind asked for. -/
inductive ValueError where
  /-- A path must not be empty. -/
  | emptyPath
  | name (e : NameError)
  | number (e : NumberError)
deriving DecidableEq

def ValueKind.read (kind : ValueKind) (word : String) : Except ValueError Argument :=
  match kind with
  | .text => .ok (.text word)
  | .path => if word = "" then .error .emptyPath else .ok (.path word)
  | .language => ((Language.ofName word).map .language).mapError .name
  | .exportFormat => ((ExportFormat.ofName word).map .exportFormat).mapError .name
  | .number => ((readNumber word).map .number).mapError .number

end AuditDesk.CommandLine
