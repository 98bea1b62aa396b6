/-!
Text as UTF-8 bytes. `bytes` and `ofBytes?` are exact; `ofBytesLossy` reads any bytes and puts the
replacement character where they are not UTF-8.
-/
namespace AuditDesk.Text

/-- The UTF-8 encoding of a text, byte by byte. -/
def bytes (s : String) : List UInt8 :=
  s.toByteArray.data.toList

/-- The text that the bytes encode, or nothing when they are not valid UTF-8. -/
def ofBytes? (encoded : List UInt8) : Option String :=
  String.fromUTF8? ⟨encoded.toArray⟩

/-- Every text is read back from its own bytes. -/
@[simp]
theorem ofBytes?_bytes (s : String) : ofBytes? (bytes s) = some s := by
  have same : (⟨(bytes s).toArray⟩ : ByteArray) = s.toByteArray := by
    simp [bytes]
  rw [ofBytes?, same, String.fromUTF8?, dif_pos s.isValidUTF8]
  rfl

/-- A character that is still being read: the bits collected, how many continuation bytes are
missing, and the range in which the next one must lie. -/
structure PartialScalar where
  bits : Nat
  missing : Nat
  low : UInt8
  high : UInt8

namespace PartialScalar

/-- What a first byte announces. Overlong forms, surrogates and values beyond U+10FFFF are excluded
by the range given for the second byte. -/
def ofLeadingByte (b : UInt8) : Option PartialScalar :=
  if 0xC2 ≤ b && b ≤ 0xDF then some ⟨b.toNat % 32, 1, 0x80, 0xBF⟩
  else if b == 0xE0 then some ⟨0, 2, 0xA0, 0xBF⟩
  else if b == 0xED then some ⟨13, 2, 0x80, 0x9F⟩
  else if 0xE1 ≤ b && b ≤ 0xEF then some ⟨b.toNat % 16, 2, 0x80, 0xBF⟩
  else if b == 0xF0 then some ⟨0, 3, 0x90, 0xBF⟩
  else if 0xF1 ≤ b && b ≤ 0xF3 then some ⟨b.toNat % 8, 3, 0x80, 0xBF⟩
  else if b == 0xF4 then some ⟨4, 3, 0x80, 0x8F⟩
  else none

end PartialScalar

/-- The character that stands for bytes which are not UTF-8. -/
def replacementChar : Char := '\uFFFD'

/-- A first byte either is a character, opens one, or is replaced. -/
private def openScalar (b : UInt8) : List Char × Option PartialScalar :=
  if b < 0x80 then ([Char.ofUInt8 b], none)
  else
    match PartialScalar.ofLeadingByte b with
    | some opened => ([], some opened)
    | none => ([replacementChar], none)

/-- Each maximal beginning of a character that is not completed is replaced as a whole. -/
private def lossyFrom : Option PartialScalar → List UInt8 → List Char
  | none, [] => []
  | some _, [] => [replacementChar]
  | none, b :: rest =>
      let (written, next) := openScalar b
      written ++ lossyFrom next rest
  | some p, b :: rest =>
      if p.low ≤ b && b ≤ p.high then
        let bits := p.bits * 64 + b.toNat % 64
        if p.missing ≤ 1 then Char.ofNat bits :: lossyFrom none rest
        else lossyFrom (some ⟨bits, p.missing - 1, 0x80, 0xBF⟩) rest
      else
        let (written, next) := openScalar b
        replacementChar :: written ++ lossyFrom next rest

def ofBytesLossy (encoded : List UInt8) : String :=
  String.ofList (lossyFrom none encoded)

end AuditDesk.Text
