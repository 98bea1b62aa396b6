import AuditDesk.Json.Reader
import AuditDesk.Text.Utf8

/-!
String literals. The bytes between the quotes are collected, escapes decoded, and the whole must be
UTF-8. A string that nobody asks for is skipped instead, which checks its escapes but neither pairs
its surrogates nor looks at its encoding.
-/
namespace AuditDesk.Json

namespace Quoted

def hexValue (b : UInt8) : Option Nat :=
  if 48 ≤ b && b ≤ 57 then some (b.toNat - 48)
  else if 97 ≤ b && b ≤ 102 then some (b.toNat - 87)
  else if 65 ≤ b && b ≤ 70 then some (b.toNat - 55)
  else none

def hexValue4 (a b c d : UInt8) : Option Nat := do
  return ((← hexValue a) * 16 + (← hexValue b)) * 256 + (← hexValue c) * 16 + (← hexValue d)

def isLeading (unit : Nat) : Bool := 0xD800 ≤ unit && unit ≤ 0xDBFF
def isTrailing (unit : Nat) : Bool := 0xDC00 ≤ unit && unit ≤ 0xDFFF

/-- The code point of a surrogate pair. -/
def joined (leading trailing : Nat) : Nat :=
  (leading - 0xD800) * 0x400 + (trailing - 0xDC00) + 0x10000

/-- What a backslash and this character stand for. -/
def simpleEscape : Char → Option UInt8
  | '"' => some 0x22
  | '\\' => some 0x5C
  | '/' => some 0x2F
  | 'b' => some 0x08
  | 'f' => some 0x0C
  | 'n' => some 0x0A
  | 'r' => some 0x0D
  | 't' => some 0x09
  | _ => none

/-- The bytes of the character with a code point. -/
def encodedScalar (value : Nat) : List UInt8 := String.utf8EncodeChar (Char.ofNat value)

/-- The position behind some bytes. -/
def after (p : Position) (read : List UInt8) : Position := read.foldl Position.after p

private def fail (cause : Cause) (p : Position) (rest : List UInt8) : Reading (List UInt8) :=
  .failed ⟨cause, some p⟩ ⟨rest, p⟩

private def failAtEnd (p : Position) (unread : List UInt8) : Reading (List UInt8) :=
  fail .endOfString (after p unread) []

/-- Collects the bytes of a string up to its closing quote; `collected` is in reverse order. -/
def body (collected : List UInt8) (p : Position) : List UInt8 → Reading (List UInt8)
  | [] => fail .endOfString p []
  | b :: rest =>
      if b = 0x22 then .done collected.reverse ⟨rest, p.after b⟩
      else if b = 0x5C then
        let p := p.after b
        match rest with
        | [] => fail .endOfString p []
        | 0x75 :: a :: b :: c :: d :: rest =>
            let p := after p [0x75, a, b, c, d]
            match hexValue4 a b c d with
            | none => fail .invalidEscape p rest
            | some unit =>
                if isTrailing unit then fail .loneSurrogate p rest
                else if isLeading unit then
                  match rest with
                  | [] => fail .endOfString p []
                  | 0x5C :: 0x75 :: a :: b :: c :: d :: rest =>
                      let p := after p [0x5C, 0x75, a, b, c, d]
                      match hexValue4 a b c d with
                      | none => fail .invalidEscape p rest
                      | some second =>
                          if isTrailing second then
                            body ((encodedScalar (joined unit second)).reverse ++ collected) p rest
                          else fail .loneSurrogate p rest
                  | 0x5C :: 0x75 :: few => failAtEnd p (0x5C :: 0x75 :: few)
                  | [0x5C] => failAtEnd p [0x5C]
                  | 0x5C :: other :: rest => fail .unfinishedSurrogate (after p [0x5C, other]) rest
                  | other :: rest => fail .unfinishedSurrogate (p.after other) rest
                else body ((encodedScalar unit).reverse ++ collected) p rest
        | 0x75 :: few => failAtEnd p (0x75 :: few)
        | e :: rest =>
            match simpleEscape (Char.ofUInt8 e) with
            | some decoded => body (decoded :: collected) (p.after e) rest
            | none => fail .invalidEscape (p.after e) rest
      else if b < 0x20 then fail .controlCharacter (p.after b) rest
      else body (b :: collected) (p.after b) rest

/-- Passes over a string up to its closing quote. -/
def skipBody (p : Position) : List UInt8 → Reading Unit
  | [] => .failed ⟨.endOfString, some p⟩ ⟨[], p⟩
  | b :: rest =>
      if b = 0x22 then .done () ⟨rest, p.after b⟩
      else if b = 0x5C then
        let p := p.after b
        match rest with
        | [] => .failed ⟨.endOfString, some p⟩ ⟨[], p⟩
        | 0x75 :: a :: b :: c :: d :: rest =>
            let p := after p [0x75, a, b, c, d]
            match hexValue4 a b c d with
            | none => .failed ⟨.invalidEscape, some p⟩ ⟨rest, p⟩
            | some _ => skipBody p rest
        | 0x75 :: few =>
            let p := after p (0x75 :: few)
            .failed ⟨.endOfString, some p⟩ ⟨[], p⟩
        | e :: rest =>
            let p := p.after e
            match simpleEscape (Char.ofUInt8 e) with
            | some _ => skipBody p rest
            | none => .failed ⟨.invalidEscape, some p⟩ ⟨rest, p⟩
      else if b < 0x20 then .failed ⟨.controlCharacter, some p⟩ ⟨b :: rest, p⟩
      else skipBody (p.after b) rest

end Quoted

namespace Reader

/-- A string whose opening quote is the next byte. -/
def quoted : Reader String := fun c =>
  let c := c.advance
  match Quoted.body [] c.position c.rest with
  | .failed failure next => .failed failure next
  | .done bytes next =>
      match Text.ofBytes? bytes with
      | some s => .done s next
      | none => .failed ⟨.invalidCodePoint, some next.position⟩ next

def skipQuoted : Reader Unit := fun c =>
  let c := c.advance
  Quoted.skipBody c.position c.rest

end Reader

end AuditDesk.Json
