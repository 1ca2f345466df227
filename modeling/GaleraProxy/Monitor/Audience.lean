import GaleraProxy.Cluster.Switch
import GaleraProxy.Monitor.Run
import GaleraProxy.Status.Logger

/-!
# A monitor and its followers

A cluster and a status logger may follow a monitor, each as one of its subscribers. `settle` lets
the monitor end its cycle and hand its election on while the followers take what waits for them.
-/

namespace GaleraProxy

/-- A monitor with its backends and its followers, each at its place among the subscribers. -/
structure Audience where
  monitor : Monitor
  backends : List Backend
  cluster : Option (Nat × Cluster)
  logger : Option (Nat × StatusLogger)
  deriving DecidableEq, Repr

namespace Audience

/-- The cluster takes the election that waits for it. -/
def clusterFollows (a : Audience) : Audience :=
  match a.cluster with
  | none => a
  | some (place, c) =>
      match a.monitor.takeElection place with
      | none => a
      | some (e, monitor) =>
          let active := e.bind fun i => a.backends[i]?.map Backend.asActive
          { a with monitor, cluster := some (place, c.setActive active) }

/-- The status logger takes the election that waits for it. -/
def loggerFollows (a : Audience) (time : Timestamp) : Audience :=
  match a.logger with
  | none => a
  | some (place, l) =>
      match a.monitor.takeElection place with
      | none => a
      | some (e, monitor) => { a with monitor, logger := some (place, l.observe a.backends e time) }

/-- The monitor goes on as far as it can, and then the followers. -/
def round (a : Audience) (now : Moment) (time : Timestamp) : Audience × List Effect :=
  let (a, effects) : Audience × List Effect :=
    match a.monitor.finishCycle a.backends now with
    | some (monitor, backends, effects) => ({ a with monitor, backends }, effects)
    | none => (a, [])
  ((({ a with monitor := a.monitor.publish now }).clusterFollows).loggerFollows time, effects)

/-- Take a number of rounds. -/
def rounds (now : Moment) (time : Timestamp) : Nat → Audience → Audience × List Effect
  | 0, a => (a, [])
  | n + 1, a =>
      let (a, effects) := a.round now time
      let (a, more) := rounds now time n a
      (a, effects ++ more)

/-- Let the monitor and its followers go on as far as they can. -/
def settle (a : Audience) (now : Moment) (time : Timestamp) : Audience × List Effect :=
  a.rounds now time (2 * a.monitor.subscribers.length + 2)

/-- The next moment, up to a limit, at which something is due. -/
def nextDue (a : Audience) (now limit : Moment) : Moment :=
  let wake := a.monitor.due?.getD limit
  let report := (a.logger.bind fun l => l.2.due?).getD limit
  min limit (min (max wake now) (max report now))

/-- The status logger reports if a report is due. -/
def tick (a : Audience) (now : Moment) : Audience × List Effect :=
  match a.logger with
  | none => (a, [])
  | some (place, l) =>
      let (l, effects) := l.tick a.backends now
      ({ a with logger := some (place, l) }, effects)

/-- The monitor and the status logger stop. -/
def stop (a : Audience) : Audience × List Effect :=
  let (monitor, effects) := a.monitor.stop
  match a.logger with
  | none => ({ a with monitor }, effects)
  | some (place, l) =>
      let (l, more) := l.stop
      ({ a with monitor, logger := some (place, l) }, effects ++ more)

end Audience

end GaleraProxy
