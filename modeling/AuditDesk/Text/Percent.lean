import AuditDesk.Text.Utf8

/-!
Bytes written as a percent sign and two hexadecimal digits.
-/
namespace AuditDesk.Text.Percent

def hexUpper (n : Nat) : Char := if n < 10 then Char.ofNat (48 + n) else Char.ofNat (55 + n)

/-- The value of a hexadecimal digit, in small or capital letters. -/
def hexValue? (c : Char) : Option Nat :=
  if c.isDigit then some (c.toNat - 48)
  else if 'a' ≤ c && c ≤ 'f' then some (c.toNat - 87)
  else if 'A' ≤ c && c ≤ 'F' then some (c.toNat - 55)
  else none

def encodeByte (b : UInt8) : List Char := ['%', hexUpper (b.toNat / 16), hexUpper (b.toNat % 16)]

/-- Writes control characters, characters beyond ASCII and those of `reserved` with percent signs. -/
def encode (reserved : List Char) (cs : List Char) : String :=
  String.ofList (cs.flatMap fun c =>
    if c.toNat < 0x20 || 0x7E < c.toNat || reserved.contains c then
      (Text.bytes c.toString).flatMap encodeByte
    else [c])

/-- The bytes that a text stands for. A percent sign without two digits stands for itself. -/
def decode : List Char → List UInt8
  | '%' :: a :: b :: rest =>
      match hexValue? a, hexValue? b with
      | some high, some low => (high * 16 + low).toUInt8 :: decode rest
      | _, _ => 37 :: decode (a :: b :: rest)
  | c :: rest => Text.bytes c.toString ++ decode rest
  | [] => []

end AuditDesk.Text.Percent
