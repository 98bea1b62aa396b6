import AuditDesk.Service.Address.Host
import AuditDesk.Service.Address.Path
import AuditDesk.Text.Blank

/-!
Addresses. A text is read as the address standard lays down: white space around it is dropped, a scheme
decides how the rest is taken apart, and every part is brought into the one form in which it is written.
For the schemes of the web a backslash counts as a slash, and the number of slashes in front of the host
does not matter.
-/
namespace AuditDesk.Service

inductive Scheme where
  | http
  | https
  | ftp
  | ws
  | wss
  | file
  | other (name : String)
deriving DecidableEq

namespace Scheme

def known : List Scheme := [.http, .https, .ftp, .ws, .wss, .file]

def name : Scheme → String
  | .http => "http"
  | .https => "https"
  | .ftp => "ftp"
  | .ws => "ws"
  | .wss => "wss"
  | .file => "file"
  | .other name => name

def ofName (name : String) : Scheme := (known.find? fun s => s.name = name).getD (.other name)

/-- The number connected to when an address names none. -/
def usualNumber? : Scheme → Option Nat
  | .http | .ws => some 80
  | .https | .wss => some 443
  | .ftp => some 21
  | .file | .other _ => none

def isKnown : Scheme → Bool
  | .other _ => false
  | _ => true

/-- Requests can be sent to it. -/
def isWeb : Scheme → Bool
  | .http | .https => true
  | _ => false

/-- Whether a character parts segments. -/
def parts (s : Scheme) (c : Char) : Bool := c = '/' || (s.isKnown && c = '\\')

end Scheme

/-- A name and a password. -/
structure Credentials where
  user : String
  password : Option String
deriving DecidableEq

/-- Credentials as an address has them. -/
structure Login where
  user : List Char
  password : Option (List Char)
deriving DecidableEq

namespace Login

/-- An empty password is none. -/
def parse? (cs : List Char) : Option Login :=
  let user := cs.takeWhile (· ≠ ':')
  let password := cs.drop (user.length + 1)
  if user.isEmpty && password.isEmpty then none
  else some ⟨user, if password.isEmpty then none else some password⟩

def reserved : List Char :=
  AddressPath.reserved ++ ['/', ':', ';', '=', '@', '[', '\\', ']', '^', '|']

def text (l : Login) : String :=
  Text.Percent.encode reserved l.user ++
    (l.password.map fun password => ":" ++ Text.Percent.encode reserved password).getD "" ++ "@"

/-- The credentials that can be sent, if the name is a text and there is something to send. -/
def credentials? (l : Login) : Option Credentials := do
  let user ← Text.ofBytes? (Text.Percent.decode l.user)
  let password := l.password.bind fun password => Text.ofBytes? (Text.Percent.decode password)
  if user.isEmpty && password.isNone then none else some ⟨user, password⟩

end Login

/-- What stands between the slashes and the path. -/
structure Authority where
  login : Option Login
  host : Option Host
  /-- The number to connect to, unless it is the usual one. -/
  number : Option Nat
deriving DecidableEq

def Authority.text (a : Authority) : String :=
  (a.login.map Login.text).getD "" ++ (a.host.map Host.text).getD "" ++
    (a.number.map fun number => ":" ++ toString number).getD ""

structure Address where
  scheme : Scheme
  authority : Option Authority
  path : AddressPath
  query : Option String
  fragment : Option String
deriving DecidableEq

namespace Address

section Reading

/-- A text without the control characters and blanks at its ends, and without tabs and line breaks. -/
def cleaned (text : String) : List Char :=
  let outside (c : Char) : Bool := c.toNat ≤ 0x20
  (Text.dropTrailing outside (text.toList.dropWhile outside)).filter fun c =>
    c ≠ '\t' && c ≠ '\n' && c ≠ '\r'

/-- The scheme and what follows its colon. -/
def scheme? (cs : List Char) : Option (Scheme × List Char) :=
  let name := cs.takeWhile fun c => c.isAlphanum || c = '+' || c = '-' || c = '.'
  match name, cs.drop name.length with
  | first :: _, ':' :: rest =>
      if first.isAlpha then some (.ofName (String.ofList (name.map Char.toLower)), rest) else none
  | _, _ => none

/-- Splits off what follows the first occurrence of a character. -/
def cut (mark : Char) (cs : List Char) : List Char × Option (List Char) :=
  let front := cs.takeWhile (· ≠ mark)
  (front, (cs.drop front.length).tail?)

/-- The host in front of a colon; those in square brackets belong to it. -/
def hostPart (bracketed : Bool) : List Char → List Char
  | [] => []
  | c :: rest =>
      if c = ':' && !bracketed then []
      else c :: hostPart (c = '[' || (bracketed && c ≠ ']')) rest

/-- The number behind the colon, and what follows it: a backslash ends it with any scheme. -/
def number? (usual : Option Nat) (cs : List Char) : Option (Option Nat × List Char) :=
  let digits := cs.takeWhile Char.isDigit
  let rest := cs.drop digits.length
  let number := digits.foldl (fun n c => n * 10 + (c.toNat - 48)) 0
  if 65535 < number || (!rest.isEmpty && rest.head? ≠ some '\\') then none
  else some (if digits.isEmpty || some number = usual then none else some number, rest)

/-- Reads what stands between the slashes and the path, and what is left of it. A host may be missing from
an address of an unknown scheme if nothing else is said about it. -/
def authority? (scheme : Scheme) (written : List Char) : Option (Authority × List Char) := do
  let place := (written.reverse.takeWhile (· ≠ '@')).reverse
  let front := written.take (written.length - place.length)
  let name := hostPart false place
  let behind := place.drop name.length
  let host ←
    if name.isEmpty then
      if scheme.isKnown || !behind.isEmpty || !(front.isEmpty || front = [':', '@']) then none
      else some none
    else (if scheme.isKnown then Host.parse? name else Host.ofForeign? name).map some
  let (number, rest) ← number? scheme.usualNumber? (behind.drop 1)
  return (⟨Login.parse? front.dropLast, host, number⟩, rest)

/-- The path that follows a host. Its first slash parts nothing. -/
def pathBehind (scheme : Scheme) (cs : List Char) : AddressPath :=
  if cs.isEmpty && !scheme.isKnown then .segments []
  else .ofSegments ((if cs.head?.any scheme.parts then cs.drop 1 else cs).splitOnP scheme.parts)

/-- Reads what follows the slashes. -/
def afterSlashes? (scheme : Scheme) (cs : List Char) : Option (Authority × AddressPath) := do
  let written := cs.takeWhile fun c => !scheme.parts c
  let (authority, rest) ← authority? scheme written
  return (authority, pathBehind scheme (rest ++ cs.drop written.length))

/-- The host of a file and the segments of its path. A drive is not a host, and this machine is none. -/
def ofFile? (cs : List Char) : Option (Option Host × List (List Char)) :=
  let split := List.splitOnP Scheme.file.parts
  match cs with
  | a :: rest =>
      if !Scheme.file.parts a then some (none, split cs)
      else
        match rest with
        | b :: rest =>
            if !Scheme.file.parts b then some (none, split (b :: rest))
            else
              let name := rest.takeWhile fun c => !Scheme.file.parts c
              if name.isEmpty || AddressPath.isDrive name then some (none, split rest)
              else do
                let path := rest.drop name.length
                match ← Host.parse? name with
                | .name "localhost" => some (none, split path)
                | host => some (some host, split (path.drop 1))
        | [] => some (none, split [])
  | [] => some (none, split [])

/-- A file on a drive is on this machine. -/
def afterFile? (cs : List Char) : Option (Authority × AddressPath) := do
  let (host, written) ← ofFile? cs
  let segments := AddressPath.resolve true [] written
  let onDrive := segments.head?.any fun first => AddressPath.isDrive first.toList
  return (⟨none, if onDrive then none else host, none⟩, .ofFile segments)

/-- Reads what is between the scheme and the query. -/
def afterScheme? (scheme : Scheme) (cs : List Char) : Option (Option Authority × AddressPath) :=
  let named := Option.map fun parts : Authority × AddressPath => (some parts.1, parts.2)
  match scheme, cs with
  | .file, cs => named (afterFile? cs)
  | .other _, '/' :: '/' :: rest => named (afterSlashes? scheme rest)
  | .other _, '/' :: rest => some (none, .ofSegments (rest.splitOn '/'))
  | .other _, cs => some (none, .whole (Text.Percent.encode [] cs))
  | scheme, cs => named (afterSlashes? scheme (cs.dropWhile scheme.parts))

def reservedInQuery (scheme : Scheme) : List Char :=
  [' ', '"', '#', '<', '>'] ++ if scheme.isKnown then ['\''] else []

/-- Reads what follows the colon behind a scheme. -/
def afterColon? (scheme : Scheme) (cs : List Char) : Option Address := do
  let (cs, fragment) := cut '#' cs
  let (cs, query) := cut '?' cs
  let (authority, path) ← afterScheme? scheme cs
  return {
    scheme := scheme
    authority := authority
    path := path
    query := query.map (Text.Percent.encode (reservedInQuery scheme))
    fragment := fragment.map (Text.Percent.encode AddressPath.reservedInFragment) }

def parse? (text : String) : Option Address := do
  let (scheme, cs) ← scheme? (cleaned text)
  afterColon? scheme cs

end Reading

/-- The path and the query, which is what a request names. -/
def target (a : Address) : String := a.path.text ++ (a.query.map ("?" ++ ·)).getD ""

def text (a : Address) : String :=
  a.scheme.name ++ ":" ++
    (match a.authority with
      | some authority => "//" ++ authority.text
      | none => if a.path.looksLikeHost then "/." else "") ++
    a.target ++ (a.fragment.map ("#" ++ ·)).getD ""

def host? (a : Address) : Option Host := a.authority.bind (·.host)

def credentials? (a : Address) : Option Credentials :=
  a.authority.bind fun authority => authority.login.bind Login.credentials?

/-- The address without a login. -/
def anonymous (a : Address) : Address :=
  { a with authority := a.authority.map fun authority => { authority with login := none } }

end Address

end AuditDesk.Service
