import GaleraProxy.Service.Step
import GaleraProxy.Steps

/-!
# The service as a port sees it

Two ports share the backends of a service. `seenAt` tells the steps of a port, which are those of
its monitor, of its runner and of its clients, from all others, and `standing` is what the clients
of the port have come to. Clients are named by the order in which they came at their port, so that
they have the same names whether or not there are any at the other port.
-/

namespace GaleraProxy

/-- The other port. -/
def ProxyPort.other : ProxyPort → ProxyPort
  | active => .inactive
  | inactive => .active

/-- Whether a call has come to its end. -/
def Call.isOver (c : Call) : Bool :=
  match c.stage with
  | .failed .. | .bridged _ _ .returned => true
  | .dialing _ | .dialed .. | .bridged .. => false

/-- Whether a call has the bridge with a number. -/
def Call.hasBridge (id : BridgeId) (c : Call) : Bool :=
  match c.stage with
  | .bridged own _ _ => own == id
  | .dialing _ | .failed .. | .dialed .. => false

/-- Whether something has been closed at a far end of the connections that a bridge holds. -/
def Bridge.isHungUp (b : Bridge) : Bool :=
  b.client.fromFar.closed || b.client.toFar.closed || b.server.fromFar.closed
    || b.server.toFar.closed

/-- Whether the client or the server of a call has hung up. -/
def Call.isHungUp (c : Call) : Bool :=
  match c.stage with
  | .bridged _ bridge _ => bridge.isHungUp
  | .dialing _ | .failed .. | .dialed .. => false

/-- The backend that a runner severs. -/
def Runner.severing? (r : Runner) : Option Nat :=
  match r.task with
  | .severing backend _ _ => some backend
  | .idle => none

/-- Results can be compared if values and errors can. -/
instance exceptDecidableEq {ε α : Type} [DecidableEq ε] [DecidableEq α] :
    DecidableEq (Except ε α)
  | .ok a, .ok b => decidable_of_iff (a = b) ⟨congrArg Except.ok, Except.ok.inj⟩
  | .error d, .error e => decidable_of_iff (d = e) ⟨congrArg Except.error, Except.error.inj⟩
  | .ok _, .error _ => .isFalse (by rintro ⟨⟩)
  | .error _, .ok _ => .isFalse (by rintro ⟨⟩)

deriving instance DecidableEq for Service.Action

namespace Service

/-- A moment, the time that it is, and what happens. -/
abbrev TimedAction := Moment × Timestamp × Action

/-- Whether something may happen while nobody toggles the traffic switch or requests shutdown. -/
def Action.isQuiet : Action → Bool
  | .toggle .. | .requestShutdown => false
  | _ => true

/-- The client whose call takes a step. -/
def Action.caller? : Action → Option Nat
  | .endDial n _ | .stepCall n | .clientEvent n _ | .serverEvent n _ => some n
  | _ => none

/-- The clients that came at a port, in the order in which they came. -/
def clientsOf (s : Service) (port : ProxyPort) : List Client :=
  s.clients.filter fun client => client.port == port

/-- Where the clients of a port were sent, and which of them have a session. -/
def standing (s : Service) (port : ProxyPort) : List (Nat × Bool) :=
  (s.clientsOf port).map fun client => (client.backend, s.isOpen client)

/-- Whether the client or its server has hung up. -/
def isHungUp (s : Service) (client : Client) : Bool := (s.call? client).any Call.isHungUp

/-- The runner of a port severs the backend at a place, which was active there, because another one
or none has been elected in its place. -/
def Replaces (s : Service) (port : ProxyPort) (j : Nat) : Prop :=
  ∃ lane k e, s.lane? port = some lane ∧ lane.runner.task = .severing j k (.election e) ∧
    lane.runner.active = some j ∧ e ≠ some j

/-- The place among the clients of a port of a client that came there. -/
def placeAt? (s : Service) (port : ProxyPort) (n : Nat) : Option Nat :=
  match s.clients[n]? with
  | some client =>
      if client.port = port then some ((s.clients.take n).countP fun c => c.port == port) else none
  | none => none

/-- The bridge that a runner closes if it goes on, told by its backend and its number. -/
def closing? (s : Service) (port : ProxyPort) (pick : Nat) : Option (Nat × BridgeId) := do
  let lane ← s.lane? port
  match lane.runner.task with
  | .idle => none
  | .severing i k _ =>
      let b ← s.backends[i]?
      match ← b.severs[k]? with
      | .closing ids => ids[pick]?.map fun id => (i, id)
      | .raised | .returned => none

/-- The place among the clients of a port of the client with a bridge. -/
def holder? (s : Service) (port : ProxyPort) (bridge : Nat × BridgeId) : Option Nat :=
  (s.clientsOf port).findIdx? fun client =>
    client.backend == bridge.1 && (s.call? client).any (Call.hasBridge bridge.2)

/-- A step as a port sees it: a client is named by its place among those of the port, and so is the
one whose bridge a runner closes. What the other port does is not seen, nor is that the bridge of a
client of the other port is closed. -/
def seenAt (s : Service) (port : ProxyPort) (action : Action) : Option Action :=
  match action with
  | .beginCycle p | .answer p .. | .crash p .. | .finishCycle p | .publish p | .takeElection p
  | .takeTraffic p | .connect p _ | .stopMonitor p | .drain p | .stopRunner p =>
      if p = port then some action else none
  | .trackElection | .followElection | .report | .stopLogger | .stopFollowing =>
      if port = .active then some action else none
  | .stepRunner p pick =>
      if p = port then
        match s.closing? port pick with
        | some bridge => (s.holder? port bridge).map fun n => .stepRunner port n
        | none => some (.stepRunner port 0)
      else none
  | .endDial n result => (s.placeAt? port n).map fun n => .endDial n result
  | .stepCall n => (s.placeAt? port n).map fun n => .stepCall n
  | .clientEvent n event => (s.placeAt? port n).map fun n => .clientEvent n event
  | .serverEvent n event => (s.placeAt? port n).map fun n => .serverEvent n event
  | .toggle .. | .stepToggle | .requestShutdown => some action

/-- What happens at a moment, and what a port sees of it. -/
def observe (port : ProxyPort) (s : Service) (step : TimedAction) :
    Option (Service × List TimedAction) :=
  (s.step step.1 step.2.1 step.2.2).map fun (next, _) =>
    (next, ((s.seenAt port step.2.2).map fun seen => (step.1, step.2.1, seen)).toList)

/-- A run in which the port sees every step, and what it sees of it: nothing happens at the other
port. -/
inductive RunsAlone (port : ProxyPort) : Service → List TimedAction → Service → Prop where
  | done (s : Service) : RunsAlone port s [] s
  | go {s next last : Service} {now : Moment} {time : Timestamp} {own label : Action}
      {effects : List (Component × Effect)} {rest : List TimedAction}
      (hstep : s.step now time own = some (next, effects))
      (hseen : s.seenAt port own = some label) (hrest : RunsAlone port next rest last) :
      RunsAlone port s ((now, time, label) :: rest) last

/-- No client of the port is at a backend that the runner of the other port severs, unless its call
has come to its end. -/
def Spares (s : Service) (port : ProxyPort) : Prop :=
  ∀ lane ∈ s.lane? port.other, ∀ j ∈ lane.runner.severing?, ∀ client ∈ s.clientsOf port,
    client.backend = j → ∀ call ∈ s.call? client, call.isOver = true

instance (s : Service) (port : ProxyPort) : Decidable (s.Spares port) :=
  inferInstanceAs (Decidable (∀ lane ∈ s.lane? port.other, _))

end Service

end GaleraProxy
