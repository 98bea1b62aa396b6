import AuditDesk.Service.Address
import AuditDesk.Service.Call
import AuditDesk.Text.Marked
import AuditDesk.Wire

/-!
The analysis service behind a web address. Each call but the release of a task is one request; a
response counts when its status is one of success. A token, if there is one, goes with every request.
-/
namespace AuditDesk.Service

inductive HttpMethod where
  | get
  | post
deriving DecidableEq

def HttpMethod.name : HttpMethod → String
  | .get => "GET"
  | .post => "POST"

structure HttpRequest where
  method : HttpMethod
  /-- An address without a login. -/
  address : Address
  /-- The login that the address came with. -/
  credentials : Option Credentials
  authorization : Option String
  /-- A body is JSON and is labelled as such. -/
  body : Option String
deriving DecidableEq

structure HttpResponse where
  status : Nat
  body : List UInt8
deriving DecidableEq

def HttpResponse.isSuccess (r : HttpResponse) : Bool := 200 ≤ r.status && r.status < 300

structure Remote where
  base : String
  token : Option String
deriving DecidableEq

namespace Remote

/-- A blank token is no token. -/
def ofParts (base : String) (token : Option String) : Remote :=
  ⟨base, token.filter fun t => !Text.allBlank t⟩

/-- The base and the path with exactly one slash between them. -/
def url (r : Remote) (path : String) : String :=
  String.ofList (Text.dropTrailing (· = '/') r.base.toList) ++ "/" ++
    String.ofList (path.toList.dropWhile (· = '/'))

/-- The path of a call below the base; releasing a task needs no request. -/
def path? : Call → Option String
  | .analyze _ => some "analyze"
  | .status task => some ("result/" ++ task)
  | .history => some "history"
  | .render format _ => some ("export/" ++ format.name)
  | .release _ => none

def method : Call → HttpMethod
  | .analyze _ | .render _ _ => .post
  | _ => .get

def body? : Call → Option String
  | .analyze request => some (Wire.ofRequest request).compact
  | .render _ report => some (Wire.ofReport report).compact
  | _ => none

/-- A header value has no control characters but the tab. -/
def fitsHeader (value : String) : Bool :=
  value.toList.all fun c => (0x20 ≤ c.toNat && c.toNat ≠ 0x7F) || c = '\t'

/-- The request for a call whose address is given as text. A host is looked for first, then the token is
looked at, and then whether the address is one of the web. -/
def compose (r : Remote) (call : Call) (url : String) : Except NetworkError HttpRequest := do
  let refused (address : Address) : Except NetworkError HttpRequest :=
    .error (.request url ("builder error for url (" ++ address.text ++ ")"))
  let some address := Address.parse? url | .error (.request url "builder error")
  let some host := address.host? | refused address
  let credentials := address.credentials?
  let address := if credentials.isSome then address.anonymous else address
  if !r.token.all fitsHeader then .error (.request url "builder error")
  else if !address.scheme.isWeb || !host.canBeAsked then refused address
  else .ok ⟨method call, address, credentials, r.token.map ("Bearer " ++ ·), body? call⟩

/-- The body of a response, which must be one of success. -/
def accepted (url : String) (request : HttpRequest) :
    Option HttpResponse → Except NetworkError (List UInt8)
  | none => .error (.request url ("error sending request for url (" ++ request.address.text ++ ")"))
  | some response =>
      if response.isSuccess then .ok response.body
      else .error (.status url response.status (Text.ofMarkedBytes response.body))

private def decoded {α : Type} (url : String) (d : Json.Decoder α)
    (body : Except NetworkError (List UInt8)) : Except NetworkError α := do
  (d.ofBytes (← body)).mapError fun failure => .decode url failure.message

/-- The reply that the body of a response makes. -/
def ofBody (url : String) (call : Call) (body : Except NetworkError (List UInt8)) : Reply :=
  match call with
  | .analyze _ => .analyzed (decoded url Wire.analyzeAnswer body)
  | .status _ => .status (decoded url Wire.taskStatus body)
  | .history => .history (decoded url Wire.reports body)
  | .render _ _ => .rendered body
  | .release _ => .released

/-- The outcome of a call over a network, which answers a request or fails to. The request that was
handed to the network comes with it. -/
def reply (r : Remote) (network : HttpRequest → Option HttpResponse) (call : Call) :
    Reply × Option HttpRequest :=
  match path? call with
  | none => (.released, none)
  | some path =>
      let url := r.url path
      match r.compose call url with
      | .error e => (call.refused e, none)
      | .ok request => (ofBody url call (accepted url request (network request)), some request)

end Remote

end AuditDesk.Service
