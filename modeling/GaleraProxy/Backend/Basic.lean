import GaleraProxy.Config.Model
import GaleraProxy.Event
import GaleraProxy.Metrics
import GaleraProxy.Session.Call

/-!
# Backends

A backend is one Galera node as the proxy sees it: where it is, whether it is healthy, and which
sessions are open to it. Severing a backend starts a new generation and closes all of its sessions;
a session that was sent to the backend in an earlier generation is closed instead of admitted.
`Backend.stepCall` and `Backend.stepSever` are the atomic steps, any of which may come between those
of others.
-/

namespace GaleraProxy

/-- What an operation shows outside: an event, or the number of sessions of a backend. -/
inductive Effect where
  | log (event : Event)
  | gauge (backend : String) (sessions : Nat)
  deriving DecidableEq, Repr

/-- The events among effects. -/
def Effect.events (effects : List Effect) : List Event :=
  effects.filterMap fun
    | .log event => some event
    | .gauge .. => none

/-- The gauges after effects. -/
def Gauges.after (g : Gauges) (effects : List Effect) : Gauges :=
  effects.foldl (fun g e =>
    match e with
    | .gauge backend sessions => g.record backend sessions
    | .log _ => g) g

/-- Where a sever stands: the generation has been raised, the swept bridges that are left are being
closed, or the sever has returned. -/
inductive Sever where
  | raised
  | closing (ids : List BridgeId)
  | returned
  deriving DecidableEq, Repr

/-- One Galera node. `calls` holds every call so far, `severs` every sever so far, and `generation`
is the number of severs. It has no bound: a counter of 64 bits agrees with it below `2 ^ 64`. -/
structure Backend where
  name : String
  host : String
  port : UInt16
  statusPort : UInt16
  statusEndpoint : String
  healthy : Bool
  generation : Nat
  registry : Registry
  calls : List Call
  severs : List Sever
  deriving DecidableEq, Repr

namespace Backend

/-- The plain port on which every agent listens. -/
def agentPort : UInt16 := 9200

/-- A configured backend. It is unhealthy until its agent says otherwise. -/
def ofConfig (c : BackendConfig) : Backend :=
  { name := c.name, host := c.host, port := c.port, statusPort := c.statusPort
    statusEndpoint := String.ofList (c.statusEndpoint.toList.dropWhile (· == '/'))
    healthy := false, generation := 0, registry := .empty, calls := [], severs := [] }

/-- Where clients of the backend are sent. -/
def address (b : Backend) : String := b.host ++ ":" ++ toString b.port.toNat

/-- A URL of the agent. -/
def statusUrl (b : Backend) (scheme : String) (port : UInt16) : String :=
  scheme ++ "://" ++ b.host ++ ":" ++ toString port.toNat ++ "/" ++ b.statusEndpoint

/-- The URLs by which the agent is asked for its status, in the order in which they are tried. With
TLS the plain port is the second choice. -/
def statusUrls (b : Backend) (tls : Bool) : List String :=
  if tls then [b.statusUrl "https" b.statusPort, b.statusUrl "http" agentPort]
  else [b.statusUrl "http" b.statusPort]

/-- The number of open sessions. -/
def sessions (b : Backend) : Nat := b.registry.size

/-- The snapshot that the API serves. -/
def toJson (b : Backend) : Json :=
  .object
    [("host", .text b.host), ("port", .nat b.port.toNat), ("status_port", .nat b.statusPort.toNat),
     ("healthy", .bool b.healthy), ("name", .text b.name),
     ("currentSessionCount", .nat b.sessions)]

/-- The text by which a backend is described. -/
def describe (b : Backend) : String :=
  "Backend \x7b name: " ++ Text.quoted b.name ++ ", host: " ++ Text.quoted b.host
    ++ ", port: " ++ toString b.port.toNat ++ ", status_port: " ++ toString b.statusPort.toNat
    ++ ", healthy: " ++ toString b.healthy ++ ", sessions: " ++ toString b.sessions ++ " \x7d"

/-- Set the health. Only a change is logged. -/
def setHealthy (b : Backend) (healthy : Bool) : Backend × List Effect :=
  let effects : List Effect :=
    if b.healthy = healthy then []
    else if healthy then [.log (.becameHealthy b.name b.host)]
    else [.log (.becameUnhealthy b.name b.host)]
  ({ b with healthy }, effects)

/-- The current number of sessions as a gauge. -/
def gauge (b : Backend) : Effect := .gauge b.name b.sessions

/-- Begin a call for a client that was sent here in the given generation. -/
def beginCall (b : Backend) (client : Duplex) (generation : Nat) : Backend :=
  { b with calls := b.calls ++ [⟨generation, .dialing client⟩] }

/-- Change a call. -/
def modifyCall (b : Backend) (i : Nat) (f : Call → Call) : Backend :=
  { b with calls := b.calls.modify i f }

/-- Put a call at another stage. -/
def setStage (b : Backend) (i : Nat) (stage : Call.Stage) : Backend :=
  b.modifyCall i fun c => { c with stage }

/-- The error of a dial that failed. -/
def dialError (b : Backend) (detail : String) : ProxyError := .backendDial b.name b.address detail

/-- End the dial of a call, with a connection or with an error. -/
def endDial (b : Backend) (i : Nat) (result : Except String Duplex) : Backend :=
  match b.calls[i]? with
  | some ⟨_, .dialing client⟩ =>
      match result with
      | .ok server => b.setStage i (.dialed client server)
      | .error detail => b.setStage i (.failed client.drop (b.dialError detail))
  | _ => b

/-- Take a bridge out of the registry, if it is still there. -/
def deregister (b : Backend) (id : BridgeId) : Backend :=
  { b with registry := (b.registry.remove? id).getD b.registry }

/-- The next atomic step of a call, or `none` if it has to wait or has returned. -/
def stepCall (b : Backend) (i : Nat) : Option (Backend × List Effect) :=
  match b.calls[i]? with
  | none => none
  | some call =>
      match call.stage with
      | .dialing _ | .failed .. => none
      | .dialed client server =>
          let (id, registry) := b.registry.create
          let b := { b with registry }
          some (b.setStage i (.bridged id (.create client server) .registered), [])
      | .bridged id bridge .registered =>
          if b.generation = call.generation then
            some (b.setStage i (.bridged id bridge .admitted), [b.gauge])
          else some (b.setStage i (.bridged id bridge .outdated), [])
      | .bridged id bridge .outdated =>
          some ((b.deregister id).setStage i (.bridged id bridge .withdrawn), [])
      | .bridged id bridge .withdrawn =>
          some (b.setStage i (.bridged id bridge.close .returned), [b.gauge])
      | .bridged id bridge .admitted =>
          some (b.setStage i (.bridged id bridge.connect .copying), [])
      | .bridged id bridge .copying =>
          match bridge.step with
          | some bridge => some (b.setStage i (.bridged id bridge .copying), [])
          | none =>
              match bridge.phase with
              | .released => some (b.setStage i (.bridged id bridge .ended), [])
              | .fresh | .running .. => none
      | .bridged id bridge .ended =>
          let b := b.deregister id
          some (b.setStage i (.bridged id bridge .returned), [b.gauge])
      | .bridged _ _ .returned => none

/-- Begin to sever: raise the generation. -/
def beginSever (b : Backend) : Backend × List Effect :=
  ({ b with generation := b.generation + 1, severs := b.severs ++ [.raised] },
   [.log (.severing b.name b.sessions)])

/-- The next atomic step of a sever, or `none` if it has returned: sweep the registry, close a swept
bridge, or return. The swept bridges are closed in any order, and `pick` is the place of the next
one among those that are left. -/
def stepSever (b : Backend) (k pick : Nat) : Option (Backend × List Effect) :=
  match b.severs[k]? with
  | none | some .returned => none
  | some .raised =>
      let (ids, registry) := b.registry.sweep
      some ({ b with registry, severs := b.severs.set k (.closing ids) }, [])
  | some (.closing []) => some ({ b with severs := b.severs.set k .returned }, [b.gauge])
  | some (.closing (first :: rest)) =>
      match (first :: rest)[pick]? with
      | none => none
      | some id =>
          let calls := b.calls.map (Call.closeBridge id)
          let left := (first :: rest).eraseIdx pick
          some ({ b with calls, severs := b.severs.set k (.closing left) }, [])

/-- Take at most `n` steps of a sever. -/
def runSever : Nat → Nat → Backend → Backend × List Effect
  | 0, _, b => (b, [])
  | n + 1, k, b =>
      match b.stepSever k 0 with
      | none => (b, [])
      | some (next, effects) =>
          let (last, more) := runSever n k next
          (last, effects ++ more)

/-- Sever the backend without a step of anything else in between. -/
def sever (b : Backend) : Backend × List Effect :=
  let (begun, first) := b.beginSever
  let (done, more) := runSever (b.registry.size + 2) b.severs.length begun
  (done, first ++ more)

/-- Take at most `n` steps of a call. -/
def runCall : Nat → Nat → Backend → Backend × List Effect
  | 0, _, b => (b, [])
  | n + 1, i, b =>
      match b.stepCall i with
      | none => (b, [])
      | some (next, effects) =>
          let (last, more) := runCall n i next
          (last, effects ++ more)

/-- Let the first `n` calls take steps until they wait. -/
def settleCalls : Nat → Backend → Backend × List Effect
  | 0, b => (b, [])
  | n + 1, b =>
      let (b, effects) := settleCalls n b
      let budget := (b.calls[n]?.map Call.budget).getD 0
      let (b, more) := runCall budget n b
      (b, effects ++ more)

/-- Let every call take steps until it waits. -/
def settle (b : Backend) : Backend × List Effect := settleCalls b.calls.length b

end Backend

end GaleraProxy
