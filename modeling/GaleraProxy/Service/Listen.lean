import GaleraProxy.Certificate.Authority
import GaleraProxy.Host.Address

/-!
# Where the service listens

The service listens on the port of the active node, on that of the inactive node if there is one, on
the port of the API, and on a port for the health alone unless it is that of the API. All of them
are bound in this order, on the one address that the configuration names.
-/

namespace GaleraProxy

/-- What the service listens for. -/
inductive Endpoint where
  | activeProxy
  | inactiveProxy
  | api
  | health
  deriving DecidableEq, Repr

/-- What the machine offers to those who want to listen: which addresses belong to it, and which are
in use. -/
structure Interfaces where
  isOwn : SocketAddress → Bool
  inUse : List SocketAddress

/-- Listen at an address. -/
def Interfaces.bind (n : Interfaces) (address : SocketAddress) : Except ProxyError Interfaces :=
  if !n.isOwn address then .error (.inputOutput "Cannot assign requested address (os error 99)")
  else if n.inUse.contains address then .error (.inputOutput "Address already in use (os error 98)")
  else .ok { n with inUse := address :: n.inUse }

namespace Config

/-- The ports to listen on, in the order in which they are bound. -/
def endpoints (c : Config) : List (Endpoint × UInt16) :=
  [(.activeProxy, c.proxy.port)]
    ++ (c.proxy.inactivePort.map fun port => (Endpoint.inactiveProxy, port)).toList
    ++ [(.api, c.api.port)]
    ++ ((c.healthPort.filter (· ≠ c.api.port)).map fun port => (Endpoint.health, port)).toList

/-- The address to listen at on a port. -/
def listenAddress (c : Config) (port : UInt16) : Except ProxyError SocketAddress :=
  match SocketAddress.parse? (c.bindAddress ++ ":" ++ toString port.toNat) with
  | some address => .ok address
  | none => .error (.addressParse "invalid socket address syntax")

/-- Listen on ports one after the other. -/
def listenAll (c : Config) (n : Interfaces) :
    List (Endpoint × UInt16) → Except ProxyError (List (Endpoint × SocketAddress))
  | [] => .ok []
  | (endpoint, port) :: rest => do
      let address ← c.listenAddress port
      let n ← n.bind address
      let others ← c.listenAll n rest
      pure ((endpoint, address) :: others)

/-- Whatever has to succeed before the service starts: the authorities are read, and every endpoint
is bound. -/
def prepare (c : Config) (n : Interfaces) :
    Except ProxyError (List (Endpoint × SocketAddress)) := do
  c.agentTls.check
  c.listenAll n c.endpoints

end Config

end GaleraProxy
