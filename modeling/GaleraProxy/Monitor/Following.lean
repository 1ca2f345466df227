import GaleraProxy.Backend.Step
import GaleraProxy.Cluster.Step
import GaleraProxy.Monitor.Step
import GaleraProxy.Runner.Basic
import GaleraProxy.Status.Logger

/-!
# Those who follow a monitor

A runner, a status logger and a cluster follow the elections of one monitor, each with a copy of the
active backend of its own. Each has a seat among the subscribers of the monitor, and other
subscribers may come before, between and after them. `Following.step` says what an atomic step of
the monitor, of a follower or of the world around them leads to, and what is to be seen of it; a run
is any sequence of steps before a request to shut down.
-/

namespace GaleraProxy

/-- Those who follow a monitor. -/
inductive Follower where
  | runner
  | logger
  | cluster
  deriving DecidableEq, Repr

/-- Where the followers of a monitor sit among its subscribers. No two share a seat. -/
structure Seats (subscribers : Nat) where
  seat : Follower → Fin subscribers
  injective : ∀ ⦃f g : Follower⦄, seat f = seat g → f = g

/-- A monitor with its backends and its followers. -/
structure Following extends Monitoring where
  runner : Runner
  logger : StatusLogger
  cluster : Cluster
  deriving DecidableEq, Repr

/-- Whether an action of a monitoring leaves a subscriber alone and does not stop the monitor. -/
def Monitoring.Action.spares (place : Nat) : Monitoring.Action → Bool
  | .take other | .leave other => other != place
  | .stop => false
  | .beginCycle | .answer .. | .crash .. | .finishCycle | .publish => true

/-- Whether an action of the switch is not the election of another active backend. -/
def Cluster.Action.keepsActive : Cluster.Action → Bool
  | .elect _ => false
  | .call _ | .goOn | .take _ | .leave _ => true

namespace Following

variable {subscribers : Nat}

/-- The atomic steps: those of the monitor and of its other subscribers, those of each follower,
those of the traffic switch, and those of the backends, which others use as well. -/
inductive Action where
  | monitor (action : Monitoring.Action)
  | takeElection
  | takeTraffic (enabled : Bool)
  | stepRunner (pick : Nat)
  | trackElection
  | report
  | followElection
  | atSwitch (action : Cluster.Action)
  | atBackend (place : Nat) (action : Backend.Action)

/-- A status logger that has failed leaves the monitor. -/
def leaveFailedLogger (seats : Seats subscribers) (s : Following) : Following :=
  if s.logger.isRunning then s
  else { s with monitor := s.monitor.dropSubscriber (seats.seat .logger) }

/-- A monitor and its followers at the moment they start. -/
def start (seats : Seats subscribers) (monitoring : Monitoring) (shutdownDelay interval : Duration)
    (trafficSubscribers : Nat) (now : Moment) : Following :=
  leaveFailedLogger seats
    { monitoring with
      runner := .start shutdownDelay, logger := .start interval now
      cluster := .start trafficSubscribers }

/-- The runner takes an election. -/
def takeElection (seats : Seats subscribers) (s : Following) :
    Option (Following × List Monitoring.Signal) :=
  if s.runner.isReady then
    (s.monitor.takeElection (seats.seat .runner)).map fun (e, monitor) =>
      let (runner, backends, _) := s.runner.beginChange s.backends (.election e)
      ({ s with monitor, backends, runner }, [.taken (seats.seat .runner) e])
  else none

/-- The status logger takes an election. -/
def trackElection (seats : Seats subscribers) (s : Following) (time : Timestamp) :
    Option (Following × List Monitoring.Signal) :=
  if s.logger.isRunning then
    (s.monitor.takeElection (seats.seat .logger)).map fun (e, monitor) =>
      ({ s with monitor, logger := s.logger.observe s.backends e time },
        [.taken (seats.seat .logger) e])
  else none

/-- The cluster takes an election. -/
def followElection (seats : Seats subscribers) (s : Following) :
    Option (Following × List Monitoring.Signal) :=
  (s.monitor.takeElection (seats.seat .cluster)).map fun (e, monitor) =>
    let active := e.bind fun i => s.backends[i]?.map Backend.asActive
    ({ s with monitor, cluster := s.cluster.setActive active }, [.taken (seats.seat .cluster) e])

/-- The status logger reports if a report is due. -/
def report (seats : Seats subscribers) (s : Following) (now : Moment) : Option Following :=
  s.logger.due?.bind fun due =>
    if due ≤ now then
      some (leaveFailedLogger seats { s with logger := (s.logger.tick s.backends now).1 })
    else none

/-- What an action leads to at a moment and what is to be seen of it, or `none` if it cannot be
taken. -/
def step (seats : Seats subscribers) (s : Following) (now : Moment) (time : Timestamp) :
    Action → Option (Following × List Monitoring.Signal)
  | .monitor action =>
      if action.spares (seats.seat .runner) && action.spares (seats.seat .logger)
          && action.spares (seats.seat .cluster) then
        (s.toMonitoring.step now action).map fun (next, signals) =>
          ({ s with toMonitoring := next }, signals)
      else none
  | .takeElection => s.takeElection seats
  | .takeTraffic enabled =>
      if s.runner.isReady then
        let (runner, backends, _) := s.runner.beginChange s.backends (.traffic enabled)
        some ({ s with runner, backends }, [])
      else none
  | .stepRunner pick =>
      (s.runner.stepChange s.backends pick).map fun (runner, backends, _) =>
        ({ s with runner, backends }, [])
  | .trackElection => s.trackElection seats time
  | .report => (s.report seats now).map fun next => (next, [])
  | .followElection => s.followElection seats
  | .atSwitch action =>
      if action.keepsActive then
        (s.cluster.act time action).map fun (cluster, _) => ({ s with cluster }, [])
      else none
  | .atBackend place action =>
      (s.backends[place]?.bind fun b => b.step action).map fun (b, _) =>
        ({ s with backends := s.backends.set place b }, [])

/-- The state after a run and all that was to be seen of it, or `none` if an action cannot be taken.
-/
def run (seats : Seats subscribers) (s : Following) (actions : List (Moment × Timestamp × Action)) :
    Option (Following × List Monitoring.Signal) :=
  runSteps (fun s (now, time, action) => step seats s now time action) s actions

end Following

end GaleraProxy
