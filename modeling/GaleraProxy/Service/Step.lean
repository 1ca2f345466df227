import GaleraProxy.Service.Basic

/-!
# The steps of the service

An `Action` is an atomic step of one part of the service or of the world around it, and
`Service.step` says what it leads to; an action that cannot be taken has no result. A run of the
service is any sequence of actions, so that every order in which the parts may take their turns is
one.
-/

namespace GaleraProxy

/-- The atomic steps. -/
inductive Service.Action where
  | beginCycle (port : ProxyPort)
  | answer (port : ProxyPort) (backend : Nat) (result : Except ProxyError AgentReply)
  | crash (port : ProxyPort) (backend : Nat) (error : String)
  | finishCycle (port : ProxyPort)
  | publish (port : ProxyPort)
  | takeElection (port : ProxyPort)
  | takeTraffic (port : ProxyPort)
  | stepRunner (port : ProxyPort) (pick : Nat)
  | trackElection
  | followElection
  | report
  | toggle (enabled : Bool) (note : String)
  | stepToggle
  | connect (port : ProxyPort) (client : Duplex)
  | endDial (client : Nat) (result : Except String Duplex)
  | stepCall (client : Nat)
  | clientEvent (client : Nat) (event : Duplex.FarEvent)
  | serverEvent (client : Nat) (event : Duplex.FarEvent)
  | requestShutdown
  | stopMonitor (port : ProxyPort)
  | stopLogger
  | stopFollowing
  | drain (port : ProxyPort)
  | stopRunner (port : ProxyPort)

/-- What a step leads to: the service after it, and what each part shows. -/
abbrev Service.Outcome := Service × List (Component × Effect)

namespace Service

/-- Effects of one part. -/
def shown (part : Component) (effects : List Effect) : List (Component × Effect) :=
  effects.map fun e => (part, e)

/-- The active backend as the cluster shows it. -/
def asActive (s : Service) (e : Elected) : Option ActiveBackend :=
  e.bind fun i => s.backends[i]?.map Backend.asActive

/-- A step of a monitor that changes nothing but the monitor. -/
def stepMonitor (s : Service) (port : ProxyPort) (f : Monitor → Option (Monitor × List Effect)) :
    Option Outcome := do
  let lane ← s.lane? port
  let (monitor, effects) ← f lane.monitor
  pure (s.setLane port { lane with monitor }, shown port.monitor effects)

/-- End the cycle of a monitor. -/
def finishCycle (s : Service) (port : ProxyPort) (now : Moment) : Option Outcome := do
  let lane ← s.lane? port
  let (monitor, backends, effects) ← lane.monitor.finishCycle s.backends now
  pure ({ s.setLane port { lane with monitor } with backends }, shown port.monitor effects)

/-- A runner takes an election. -/
def takeElection (s : Service) (port : ProxyPort) : Option Outcome := do
  let lane ← s.lane? port
  if !lane.runner.isReady then none
  else
    let (e, monitor) ← lane.monitor.takeElection runnerPlace
    let (runner, backends, effects) := lane.runner.beginChange s.backends (.election e)
    pure ({ s.setLane port { monitor, runner } with backends }, shown port.proxy effects)

/-- A runner takes a decision of the traffic switch. -/
def takeTraffic (s : Service) (port : ProxyPort) : Option Outcome := do
  let lane ← s.lane? port
  if !lane.runner.isReady then none
  else
    match s.cluster.receive port.trafficPlace with
    | some (.value enabled channel) =>
        let (runner, backends, effects) := lane.runner.beginChange s.backends (.traffic enabled)
        let cluster := s.cluster.setSubscriber port.trafficPlace channel
        pure ({ s.setLane port { lane with runner } with backends, cluster },
          shown port.proxy effects)
    | _ => none

/-- A runner goes on with the change that it takes in. -/
def stepRunner (s : Service) (port : ProxyPort) (pick : Nat) : Option Outcome := do
  let lane ← s.lane? port
  let (runner, backends, effects) ← lane.runner.stepChange s.backends pick
  pure ({ s.setLane port { lane with runner } with backends }, shown port.proxy effects)

/-- The status logger takes an election. -/
def trackElection (s : Service) (time : Timestamp) : Option Outcome :=
  if !s.logger.isRunning then none
  else do
    let (e, monitor) ← s.active.monitor.takeElection loggerPlace
    let logger := s.logger.observe s.backends e time
    pure ({ s with active := { s.active with monitor }, logger }, [])

/-- The cluster takes an election. -/
def followElection (s : Service) : Option Outcome :=
  if !s.following then none
  else do
    let (e, monitor) ← s.active.monitor.takeElection clusterPlace
    let cluster := s.cluster.setActive (s.asActive e)
    pure ({ s with active := { s.active with monitor }, cluster }, [])

/-- The status logger reports if a report is due. -/
def report (s : Service) (now : Moment) : Option Outcome := do
  let due ← s.logger.due?
  if due ≤ now then
    let (logger, effects) := s.logger.tick s.backends now
    pure ({ s with logger }.leaveFailedLogger, shown .statusLogger effects)
  else none

/-- A client connects at a port that is served. It becomes a call of the backend that it is sent to,
or its connection is dropped at once. -/
def connect (s : Service) (port : ProxyPort) (client : Duplex) : Option Outcome := do
  let lane ← s.lane? port
  if !lane.runner.isReady then none
  else
    match lane.runner.route with
    | none => pure ({ s with turnedAway := s.turnedAway ++ [client.drop] }, [])
    | some i =>
        let call := (s.backends[i]?.map fun b => b.calls.length).getD 0
        pure ({ s with
          backends := lane.runner.accept s.backends client
          clients := s.clients ++ [⟨port, i, call⟩] }, [])

/-- A step of the backend that a client was sent to. -/
def stepBackend (s : Service) (client : Nat)
    (f : Backend → Nat → Option (Backend × List (Component × Effect))) : Option Outcome := do
  let c ← s.clients[client]?
  let b ← s.backends[c.backend]?
  let (b, effects) ← f b c.call
  pure ({ s with backends := s.backends.set c.backend b }, effects)

/-- The dial for a client ends. The runner logs a failure. -/
def endDial (s : Service) (client : Nat) (result : Except String Duplex) : Option Outcome := do
  let c ← s.clients[client]?
  s.stepBackend client fun b i =>
    match b.calls[i]? with
    | some ⟨_, .dialing _⟩ =>
        let failure : List (Component × Effect) :=
          match result with
          | .ok _ => []
          | .error detail => [(c.port.proxy, .log (.sessionFailed (b.dialError detail).message))]
        some (b.endDial i result, failure)
    | _ => none

/-- A part stops once shutdown was requested. -/
def whenStopping (s : Service) (outcome : Option Outcome) : Option Outcome :=
  if s.stopping then outcome else none

/-- The monitor of a port stops. -/
def stopMonitor (s : Service) (port : ProxyPort) : Option Outcome :=
  s.stepMonitor port fun m => if m.isStopped then none else some m.stop

/-- The status logger stops, and leaves its monitor. -/
def stopLogger (s : Service) : Option Outcome :=
  if s.logger.isRunning then
    let (logger, effects) := s.logger.stop
    let monitor := s.active.monitor.dropSubscriber loggerPlace
    some ({ s with logger, active := { s.active with monitor } }, shown .statusLogger effects)
  else none

/-- The cluster follows no more elections. -/
def stopFollowing (s : Service) : Option Outcome :=
  if s.following then
    let monitor := s.active.monitor.dropSubscriber clusterPlace
    some ({ s with following := false, active := { s.active with monitor } }, [])
  else none

/-- A runner that has ended leaves its monitor and the traffic switch. -/
def leaveLane (s : Service) (port : ProxyPort) (lane : Lane) : Service :=
  let monitor := lane.monitor.dropSubscriber runnerPlace
  { s.setLane port { lane with monitor } with
    cluster := s.cluster.dropSubscriber port.trafficPlace }

/-- The runner of a port learns that it has to stop. -/
def drain (s : Service) (port : ProxyPort) (now : Moment) : Option Outcome := do
  let lane ← s.lane? port
  if !lane.runner.isReady then none
  else
    match lane.runner.phase with
    | .serving =>
        let (runner, effects) := lane.runner.requestShutdown now
        let lane := { lane with runner }
        let next := if runner.isRunning then s.setLane port lane else s.leaveLane port lane
        pure (next, shown port.proxy effects)
    | .draining _ | .stopped | .failed => none

/-- The runner of a port stops if its deadline has come. -/
def stopRunner (s : Service) (port : ProxyPort) (now : Moment) : Option Outcome := do
  let lane ← s.lane? port
  let deadline ← lane.runner.deadline?
  if lane.runner.isReady && decide (deadline ≤ now) then
    let (runner, effects) := lane.runner.tick now
    pure (s.leaveLane port { lane with runner }, shown port.proxy effects)
  else none

/-- What an action leads to at a moment, or `none` if it cannot be taken. -/
def step (s : Service) (now : Moment) (time : Timestamp) : Action → Option Outcome
  | .beginCycle port =>
      s.stepMonitor port fun m => (m.beginCycle s.backends now).map fun m => (m, [])
  | .answer port i result => s.stepMonitor port fun m => some (m.receive i result, [])
  | .crash port i error => s.stepMonitor port fun m => some (m.crash i error)
  | .finishCycle port => s.finishCycle port now
  | .publish port => s.stepMonitor port fun m => (m.stepPublish now).map fun m => (m, [])
  | .takeElection port => s.takeElection port
  | .takeTraffic port => s.takeTraffic port
  | .stepRunner port pick => s.stepRunner port pick
  | .trackElection => s.trackElection time
  | .followElection => s.followElection
  | .report => s.report now
  | .toggle enabled note => some ({ s with cluster := s.cluster.beginToggle enabled note }, [])
  | .stepToggle =>
      (s.cluster.step time).map fun (cluster, effects) => ({ s with cluster }, shown .api effects)
  | .connect port client => s.connect port client
  | .endDial client result => s.endDial client result
  | .stepCall client => do
      let c ← s.clients[client]?
      s.stepBackend client fun b i =>
        (b.stepCall i).map fun (b, effects) => (b, shown c.port.proxy effects)
  | .clientEvent client event =>
      s.stepBackend client fun b i =>
        some (b.modifyCall i (Call.mapClient fun d => d.afterFar event), [])
  | .serverEvent client event =>
      s.stepBackend client fun b i =>
        some (b.modifyCall i (Call.mapServer fun d => d.afterFar event), [])
  | .requestShutdown => some ({ s with stopping := true }, [])
  | .stopMonitor port => s.whenStopping (s.stopMonitor port)
  | .stopLogger => s.whenStopping s.stopLogger
  | .stopFollowing => s.whenStopping s.stopFollowing
  | .drain port => s.whenStopping (s.drain port now)
  | .stopRunner port => s.stopRunner port now

end Service

end GaleraProxy
