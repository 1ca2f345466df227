import GaleraProxy.Http.Uri
import GaleraProxy.Json.Value

/-!
# Requests and responses

Requests and responses of the administration API. A response tells the length of its body, except
where nothing stands at the requested path.
-/

namespace GaleraProxy.Api

/-- A request. Names of headers are in lower case. -/
structure Request where
  method : String
  uri : Http.Uri
  headers : List (String × List UInt8)
  deriving Repr

/-- Why a request cannot be made. -/
inductive Request.Invalid where
  | method
  | uri (reason : Http.Uri.Invalid)
  | headerName
  | headerValue
  deriving DecidableEq, Repr

/-- The words for a request that cannot be made. -/
def Request.Invalid.message : Request.Invalid → String
  | method => "invalid HTTP method"
  | uri reason => reason.message
  | headerName => "invalid HTTP header name"
  | headerValue => "failed to parse header value"

/-- Whether a text may name a method or a header. -/
def isToken (s : String) : Bool :=
  !s.isEmpty && s.toList.all fun c => c.isAlphanum || "!#$%&'*+-.^_`|~".toList.contains c

/-- Whether bytes may be the value of a header. -/
def isHeaderValue (bytes : List UInt8) : Bool :=
  bytes.all fun b => b == 0x09 || (0x20 ≤ b && b != 0x7F)

/-- A request from its parts. The URI is looked at first of what comes after the method. -/
def Request.parse (method uri : String) (headers : List (String × List UInt8)) :
    Except Request.Invalid Request :=
  if !isToken method then .error .method
  else
    match Http.Uri.parse uri with
    | .error reason => .error (.uri reason)
    | .ok uri =>
        if headers.any fun h => !isToken h.1 then .error .headerName
        else if headers.any fun h => !isHeaderValue h.2 then .error .headerValue
        else .ok ⟨method, uri, headers.map fun h => (h.1.map Char.toLower, h.2)⟩

/-- The first value of a header. -/
def Request.header? (r : Request) (name : String) : Option (List UInt8) := r.headers.lookup name

/-- A response. -/
structure Response where
  status : Nat
  headers : List (String × String)
  body : String
  deriving DecidableEq, Repr

namespace Response

/-- The header that tells the length of a body. -/
def lengthHeader (body : String) : String × String := ("content-length", toString body.utf8ByteSize)

/-- A response without a body. -/
def empty (status : Nat) (headers : List (String × String)) : Response :=
  ⟨status, headers ++ [lengthHeader ""], ""⟩

/-- A response with a body of some type. -/
def withBody (status : Nat) (type body : String) : Response :=
  ⟨status, [("content-type", type), lengthHeader body], body⟩

/-- A plain text. -/
def text (status : Nat) (body : String) : Response :=
  withBody status "text/plain; charset=utf-8" body

/-- A JSON document. -/
def json (v : Json) : Response := withBody 200 "application/json" v.render

/-- The response to a request for the headers only. -/
def headOnly (r : Response) : Response := { r with body := "" }

end Response

end GaleraProxy.Api
