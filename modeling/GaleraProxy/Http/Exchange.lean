import GaleraProxy.Error
import GaleraProxy.Http.Uri

/-!
# Requests to other servers

`exchange` takes a URL to what comes of asking for it. A URL that is none, or that does not say
which server is meant, is refused before anything is sent; all else is up to the network.
-/

namespace GaleraProxy.Http

/-- What comes of a request on the network: nobody could be reached, the connection was lost before
a response, no response came in time, or one came, whose body may have broken off with an error. -/
inductive Exchange where
  | unreachable
  | lost
  | silent
  | answered (status : Nat) (body : Except String (List UInt8))

/-- Why a request has no response. -/
inductive RequestFault where
  | invalid (reason : Uri.Invalid)
  | notAbsolute
  | unreachable
  | lost
  | silent
  deriving DecidableEq, Repr

/-- A response: its status, and its body or why the body broke off. -/
structure Answer where
  status : Nat
  body : Except String (List UInt8)

/-- Whether a URI says which server is meant. -/
def Uri.isAbsolute (u : Uri) : Bool := u.scheme.isSome && !u.authority.isEmpty

/-- Ask for a URL. -/
def exchange (network : Uri → Exchange) (url : String) : Except RequestFault Answer :=
  match Uri.parse url with
  | .error reason => .error (.invalid reason)
  | .ok uri =>
      if !uri.isAbsolute then .error .notAbsolute
      else
        match network uri with
        | .unreachable => .error .unreachable
        | .lost => .error .lost
        | .silent => .error .silent
        | .answered status body => .ok ⟨status, body⟩

/-- The error for a request without a response. `timeoutMillis` is how long a response was waited
for. -/
def RequestFault.toError (url : String) (timeoutMillis : Nat) : RequestFault → ProxyError
  | invalid reason => .uriParse reason.message
  | notAbsolute => .httpRequest "client error (UserAbsoluteUriRequired)"
  | unreachable => .httpRequest "client error (Connect)"
  | lost => .httpRequest "client error (SendRequest)"
  | silent => .httpTimeout url timeoutMillis

end GaleraProxy.Http
