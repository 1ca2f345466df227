import GaleraProxy.Monitor.Agent
import GaleraProxy.Monitor.Run
import GaleraProxy.Service.LogLine
import GaleraProxy.Service.Step

/-!
# A run of the service

Here the parts of the service take their turns in a fixed order, each until it has to wait. `settle`
lets all parts take the steps that are due, `pollAgents` lets a monitor ask all agents, and `finish`
lets the service come to its end after a request to shut down.
-/

namespace GaleraProxy.Service

/-- What is logged when the service starts. -/
def startLines (s : Service) (c : Config) (commit : String)
    (listening : List (Endpoint × SocketAddress)) : List LogLine :=
  let backends := s.backends.length
  let listeningLine (l : Endpoint × SocketAddress) : LogLine :=
    match l.1 with
    | .activeProxy => ⟨some .activeProxy, .proxyListening l.2.text⟩
    | .inactiveProxy => ⟨some .inactiveProxy, .proxyListening l.2.text⟩
    | .api => ⟨some .api, .httpListening ("Some(" ++ l.2.text ++ ")")⟩
    | .health => ⟨some .health, .httpListening ("Some(" ++ l.2.text ++ ")")⟩
  s.ports.filterMap (fun port =>
      (s.lane? port).map fun lane => ⟨some port.monitor, lane.monitor.startEvent⟩)
    ++ [⟨some .statusLogger, s.logger.startEvent backends⟩]
    ++ listening.map listeningLine
    ++ [⟨none, .started
          { version := programVersion, commit, proxyPort := c.proxy.port
            inactivePort := c.proxy.inactivePort, apiPort := c.api.port
            healthPort := c.healthPort, backends }⟩]

/-- The actions by which the parts go on by themselves. -/
def ownActions (s : Service) : List Action :=
  s.ports.flatMap (fun port =>
      [.stepRunner port 0, .drain port, .stopMonitor port, .finishCycle port, .publish port,
       .takeElection port, .takeTraffic port, .stopRunner port])
    ++ [.stopLogger, .stopFollowing, .trackElection, .followElection, .stepToggle, .report]
    ++ (List.range s.clients.length).map .stepCall

/-- An upper bound for the steps that the parts take by themselves. -/
def budget (s : Service) : Nat :=
  let calls := s.backends.flatMap (·.calls)
  64 + 8 * s.cluster.pending.length * (s.cluster.subscribers.length + 2)
    + (calls.map fun c => c.budget + 1).foldl Nat.add 0

/-- Take at most `n` steps, always the first that can be taken. -/
def settleFor (now : Moment) (time : Timestamp) : Nat → Service → Outcome
  | 0, s => (s, [])
  | n + 1, s =>
      match s.ownActions.findSome? (s.step now time) with
      | none => (s, [])
      | some (next, effects) =>
          let (last, more) := settleFor now time n next
          (last, effects ++ more)

/-- Let all parts take steps until each has to wait. -/
def settle (s : Service) (now : Moment) (time : Timestamp) : Outcome :=
  settleFor now time s.budget s

/-- Let the monitor of a port ask all agents if a cycle is due. -/
def pollAgents (s : Service) (network : Http.Uri → Http.Exchange) (port : ProxyPort)
    (now : Moment) : Service :=
  match (s.lane? port).bind fun lane => lane.monitor.beginCycle s.backends now with
  | none => s
  | some monitor =>
      let turn (url : String) : AgentTurn := .result (askAgent network monitor.timeout url)
      let asked := (List.range s.backends.length).foldl (fun m i => (m.ask turn i).monitor) monitor
      match s.lane? port with
      | some lane => s.setLane port { lane with monitor := asked }
      | none => s

/-- Let all that is due at a moment happen. -/
def advance (s : Service) (network : Http.Uri → Http.Exchange) (now : Moment) (time : Timestamp) :
    Outcome :=
  (s.ports.foldl (fun s port => s.pollAgents network port now) s).settle now time

/-- The moments at which something is due. -/
def dueMoments (s : Service) : List Moment :=
  let lanes := s.ports.filterMap s.lane?
  s.logger.due?.toList
    ++ lanes.filterMap (fun lane => lane.monitor.due?)
    ++ lanes.filterMap fun lane => lane.runner.deadline?

/-- Whether every part has stopped. -/
def isOver (s : Service) : Bool :=
  let lanes := s.ports.filterMap s.lane?
  !s.logger.isRunning && !s.following
    && lanes.all fun lane => lane.monitor.isStopped && !lane.runner.isRunning

/-- Why parts failed. -/
def failures (s : Service) : List String :=
  let ofLogger := match s.logger.phase with
    | .failed reason => [reason]
    | .waiting _ | .stopped => []
  let ofRunners := (s.ports.filterMap s.lane?).filterMap fun lane =>
    match lane.runner.phase with
    | .failed => some Moment.overflowMessage
    | .serving | .draining _ | .stopped => none
  ofLogger ++ ofRunners

/-- The lines at the end of a service whose parts have all stopped. -/
def endLines (s : Service) : List LogLine :=
  s.failures.map (fun reason =>
      ⟨none, .partFailed ("task panicked with message " ++ Text.quoted reason)⟩)
    ++ [⟨none, .stopped⟩]

/-- Let the service come to its end: shutdown is requested at a moment, and time passes until the
last deadline. -/
def finish (s : Service) (now : Moment) (time : Timestamp) : Service × List LogLine :=
  let (s, first) := ({ s with stopping := true }).settle now time
  let last := s.dueMoments.foldl max now
  let (s, second) := s.settle last time
  (s, LogLine.ofEffects (first ++ second) ++ s.endLines)

end GaleraProxy.Service
