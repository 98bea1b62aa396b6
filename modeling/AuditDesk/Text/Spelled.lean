import AuditDesk.Text.Ligature

/-!
Texts in quotation marks in which everything that cannot be seen is spelled out.
-/
namespace AuditDesk.Text

/-- Whether a character shows nothing on its own; marks need another one to stand on. -/
def isHidden (c : Char) : Bool :=
  (inRanges blindRanges c && !inRanges laterAssignedRanges c) || inRanges ignorableRanges c ||
    ((inRanges extendRanges c || inRanges laterMarkRanges c) && !isSkinTone c)

/-- A character as it is spelled: some have a letter of their own, others give their number. -/
def spelledChar (c : Char) : List Char :=
  match c with
  | '\x00' => ['\\', '0']
  | '\t' => ['\\', 't']
  | '\r' => ['\\', 'r']
  | '\n' => ['\\', 'n']
  | '\\' => ['\\', '\\']
  | '"' => ['\\', '"']
  | c =>
      if isHidden c then ['\\', 'u', '\x7b'] ++ Nat.toDigits 16 c.toNat ++ ['\x7d'] else [c]

def spelled (s : String) : String :=
  String.ofList ('"' :: s.toList.flatMap spelledChar ++ ['"'])

end AuditDesk.Text
