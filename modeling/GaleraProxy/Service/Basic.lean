import GaleraProxy.Api.Router
import GaleraProxy.Config.Model
import GaleraProxy.Monitor.Basic
import GaleraProxy.Runner.Basic
import GaleraProxy.Service.Listen
import GaleraProxy.Status.Logger

/-!
# The service

The service joins all parts. Every proxy port has a lane, which is a monitor that elects and a
runner that routes: the active lane elects the lowest index and the inactive lane, if there is one,
the highest. The status logger and the cluster follow the elections of the active lane, and the
cluster tells all runners about the traffic switch.
-/

namespace GaleraProxy

/-- A port at which clients of the database connect. -/
inductive ProxyPort where
  | active
  | inactive
  deriving DecidableEq, Repr

/-- The parts of the service, as they are named in the log. -/
inductive Component where
  | activeMonitor
  | activeProxy
  | statusLogger
  | clusterApi
  | inactiveMonitor
  | inactiveProxy
  | api
  | health
  deriving DecidableEq, Repr

/-- The name of a part. -/
def Component.name : Component → String
  | activeMonitor => "active-monitor"
  | activeProxy => "active-proxy"
  | statusLogger => "status-logger"
  | clusterApi => "cluster-api"
  | inactiveMonitor => "inactive-monitor"
  | inactiveProxy => "inactive-proxy"
  | api => "api"
  | health => "health"

/-- The monitor of a port. -/
def ProxyPort.monitor : ProxyPort → Component
  | active => .activeMonitor
  | inactive => .inactiveMonitor

/-- The runner of a port. -/
def ProxyPort.proxy : ProxyPort → Component
  | active => .activeProxy
  | inactive => .inactiveProxy

/-- How the backend of a port is elected. -/
def ProxyPort.policy : ProxyPort → Policy
  | active => .lowest
  | inactive => .highest

/-- The place of a port's runner among the subscribers of the traffic switch. -/
def ProxyPort.trafficPlace : ProxyPort → Nat
  | active => 0
  | inactive => 1

/-- The place of a runner among the subscribers of its monitor. -/
def runnerPlace : Nat := 0

/-- The place of the status logger among the subscribers of the active monitor. -/
def loggerPlace : Nat := 1

/-- The place of the cluster among the subscribers of the active monitor. -/
def clusterPlace : Nat := 2

/-- A monitor and the runner that follows it. -/
structure Lane where
  monitor : Monitor
  runner : Runner
  deriving DecidableEq, Repr

/-- A client that was sent to a backend: the port at which it came, and the call of the backend. -/
structure Client where
  port : ProxyPort
  backend : Nat
  call : Nat
  deriving DecidableEq, Repr

/-- The running service. `turnedAway` holds the connections of the clients that were not sent to a
backend, `following` tells whether the cluster still follows elections, and `stopping` whether
shutdown was requested. -/
structure Service where
  backends : List Backend
  cluster : Cluster
  logger : StatusLogger
  active : Lane
  inactive : Option Lane
  following : Bool
  clients : List Client
  turnedAway : List Duplex
  stopping : Bool
  deriving DecidableEq, Repr

namespace Service

/-- The lane of a port of a configuration. The inactive port never waits for its clients to leave.
-/
def createLane (c : Config) (now : Moment) (port : ProxyPort) : Lane :=
  let subscribers := match port with
    | .active => 3
    | .inactive => 1
  let delay := match port with
    | .active => c.shutdownDelay
    | .inactive => .zero
  { monitor := .create port.policy c.agentTls.enabled c.healthcheckTimeout c.proxy.backends.length
      subscribers now
    runner := .start delay }

/-- A status logger that has failed leaves its monitor. -/
def leaveFailedLogger (s : Service) : Service :=
  if s.logger.isRunning then s
  else { s with active := { s.active with monitor := s.active.monitor.dropSubscriber loggerPlace } }

/-- The service of a configuration, at the moment it starts. -/
def create (c : Config) (now : Moment) : Service :=
  leaveFailedLogger
  { backends := c.proxy.backends.map .ofConfig
    cluster := .start (if c.proxy.inactivePort.isSome then 2 else 1)
    logger := .start c.statusLogInterval now
    active := createLane c now .active
    inactive := c.proxy.inactivePort.map fun _ => createLane c now .inactive
    following := true, clients := [], turnedAway := [], stopping := false }

/-- The lane of a port. -/
def lane? (s : Service) : ProxyPort → Option Lane
  | .active => some s.active
  | .inactive => s.inactive

/-- Put a lane in its place. -/
def setLane (s : Service) (port : ProxyPort) (lane : Lane) : Service :=
  match port with
  | .active => { s with active := lane }
  | .inactive => { s with inactive := some lane }

/-- The ports that are served. -/
def ports (s : Service) : List ProxyPort :=
  if s.inactive.isSome then [.active, .inactive] else [.active]

/-- The backend to which a client of a port is sent that connects now. -/
def route (s : Service) (port : ProxyPort) : Option Nat :=
  (s.lane? port).bind fun lane => lane.runner.route

/-- The call of a client. -/
def call? (s : Service) (client : Client) : Option Call :=
  s.backends[client.backend]?.bind fun b => b.calls[client.call]?

/-- Whether a client has a session: its call is admitted and has not come to its end. -/
def isOpen (s : Service) (client : Client) : Bool :=
  match s.call? client with
  | some ⟨_, .bridged _ bridge .admitted⟩ | some ⟨_, .bridged _ bridge .copying⟩ => !bridge.closed
  | _ => false

/-- The sessions of a port. -/
def sessions (s : Service) (port : ProxyPort) : List Client :=
  s.clients.filter fun c => c.port == port && s.isOpen c

/-- What the API shows of the service. -/
def apiState (s : Service) (c : Config) (source : String) (version : ConfigVersion)
    (metrics : Option Gauges) (commit : String) (uptimeSeconds : Nat) : Api.State :=
  { cluster := s.cluster, backends := s.backends
    credentials := ⟨c.api.username, c.api.password⟩
    metrics, source, version, commit, uptimeSeconds }

end Service

end GaleraProxy
