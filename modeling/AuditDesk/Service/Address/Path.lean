import AuditDesk.Text.Percent

/-!
Paths of addresses. Dot segments are resolved as the path is read, and what may not stand in a segment
is written with percent signs.
-/
namespace AuditDesk.Service

inductive AddressPath where
  /-- Segments, each behind a slash. -/
  | segments (segments : List String)
  /-- A path that does not begin with a slash is not taken apart. -/
  | whole (text : String)
deriving DecidableEq

namespace AddressPath

def text : AddressPath → String
  | .segments parts => String.join (parts.map ("/" ++ ·))
  | .whole text => text

def reservedInFragment : List Char := [' ', '"', '<', '>', '\x60']
def reserved : List Char := reservedInFragment ++ ['#', '?', '\x7b', '\x7d']

/-- A dot may be written with a percent sign. -/
def spelledDots : List Char → List Char
  | '%' :: '2' :: e :: rest =>
      if e = 'e' || e = 'E' then '.' :: spelledDots rest else '%' :: spelledDots ('2' :: e :: rest)
  | c :: rest => c :: spelledDots rest
  | [] => []

/-- The letter of a drive. -/
def isDrive : List Char → Bool
  | [letter, mark] => letter.isAlpha && (mark = ':' || mark = '|')
  | _ => false

/-- The path one segment up. A drive is not left. -/
def up : List String → List String
  | [] => []
  | last :: before => if isDrive last.toList then last :: before else before

/-- Resolves segments from left to right; `done` holds those before, the last first. Among files, a
drive in front is marked with a colon. -/
def resolve (amongFiles : Bool) (done : List String) : List (List Char) → List String
  | [] => done.reverse
  | segment :: rest =>
      if spelledDots segment = ['.'] then
        if rest.isEmpty then ("" :: done).reverse else resolve amongFiles done rest
      else if spelledDots segment = ['.', '.'] then
        if rest.isEmpty then ("" :: up done).reverse else resolve amongFiles (up done) rest
      else if amongFiles && done.isEmpty && isDrive segment then
        resolve amongFiles [String.ofList (segment.take 1 ++ [':'])] rest
      else resolve amongFiles (Text.Percent.encode reserved segment :: done) rest

/-- The path that segments with slashes between them make. -/
def ofSegments (written : List (List Char)) : AddressPath :=
  .segments (resolve false [] written)

/-- The path of a file has no empty segments in front. -/
def ofFile (resolved : List String) : AddressPath :=
  match resolved.dropWhile (· = "") with
  | [] => .segments [""]
  | named => .segments named

/-- Without a host, a path of this form would be taken for one. -/
def looksLikeHost : AddressPath → Bool
  | .segments ("" :: _ :: _) => true
  | _ => false

end AddressPath

end AuditDesk.Service
