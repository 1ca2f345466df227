import GaleraProxy.Error
import GaleraProxy.Session.Bridge
import GaleraProxy.Session.Registry

/-!
# Sessions in the making

A call brings one client to a backend: it dials, registers a bridge, checks that the backend was not
severed in the meantime, copies until either side hangs up, and takes the bridge out again. The
stages of a call are the points between its atomic steps.
-/

namespace GaleraProxy

/-- Where a call stands once it has a bridge: the bridge is registered, found outdated, taken out
again, admitted, copying, at its end, or the call has returned. -/
inductive Call.Point where
  | registered
  | outdated
  | withdrawn
  | admitted
  | copying
  | ended
  | returned
  deriving DecidableEq, Repr

/-- The stages of a call. -/
inductive Call.Stage where
  | dialing (client : Duplex)
  | failed (client : Duplex) (error : ProxyError)
  | dialed (client server : Duplex)
  | bridged (id : BridgeId) (bridge : Bridge) (point : Call.Point)
  deriving DecidableEq, Repr

/-- One client on its way through a backend, with the generation that was seen when it was sent
there. -/
structure Call where
  generation : Nat
  stage : Call.Stage
  deriving DecidableEq, Repr

namespace Call

/-- The client's connection. -/
def client (c : Call) : Duplex :=
  match c.stage with
  | .dialing client | .failed client _ | .dialed client _ => client
  | .bridged _ bridge _ => bridge.client

/-- The server's connection, once there is one. -/
def server? (c : Call) : Option Duplex :=
  match c.stage with
  | .dialing _ | .failed .. => none
  | .dialed _ server => some server
  | .bridged _ bridge _ => some bridge.server

/-- Change the client's connection. -/
def mapClient (f : Duplex → Duplex) (c : Call) : Call :=
  match c.stage with
  | .dialing client => { c with stage := .dialing (f client) }
  | .failed client error => { c with stage := .failed (f client) error }
  | .dialed client server => { c with stage := .dialed (f client) server }
  | .bridged id bridge point =>
      { c with stage := .bridged id { bridge with client := f bridge.client } point }

/-- Change the server's connection. -/
def mapServer (f : Duplex → Duplex) (c : Call) : Call :=
  match c.stage with
  | .dialing _ | .failed .. => c
  | .dialed client server => { c with stage := .dialed client (f server) }
  | .bridged id bridge point =>
      { c with stage := .bridged id { bridge with server := f bridge.server } point }

/-- Close the call's bridge if it has the given number. -/
def closeBridge (id : BridgeId) (c : Call) : Call :=
  match c.stage with
  | .bridged own bridge point =>
      if own = id then { c with stage := .bridged own bridge.close point } else c
  | _ => c

/-- How a call looks from outside. -/
inductive Outcome where
  | dialing
  | connected
  | done
  | refused (error : ProxyError)
  deriving DecidableEq, Repr

/-- How the call looks from outside. -/
def outcome (c : Call) : Outcome :=
  match c.stage with
  | .dialing _ => .dialing
  | .failed _ error => .refused error
  | .bridged _ _ .returned => .done
  | .dialed .. | .bridged .. => .connected

/-- An upper bound for the number of steps that a call can take by itself. -/
def budget (c : Call) : Nat :=
  let size (d : Duplex) : Nat := d.fromFar.bytes.length
  match c.stage with
  | .dialing _ | .failed .. => 0
  | .dialed client server => 2 * (size client + size server) + 16
  | .bridged _ bridge _ => 2 * (size bridge.client + size bridge.server) + bridge.work + 16

end Call

end GaleraProxy
