import GaleraProxy.Backend.Basic
import GaleraProxy.Time.Duration

/-!
# Proxy runners

A runner serves one port. It keeps its own copy of the active backend and of the traffic switch, and
sends each new client to the active backend while traffic is enabled. Replacing the active backend
and disabling traffic sever the sessions of the backend that was active; `beginChange` and
`stepChange` are the atomic steps, between which other parts may take theirs. After a request to
shut down the runner goes on for a while, so that clients can leave.
-/

namespace GaleraProxy

/-- Where a runner stands: it serves until it is told to stop, it serves until its deadline, it has
stopped, or it has failed because the clock cannot show its deadline. -/
inductive Runner.Phase where
  | serving
  | draining (deadline : Moment)
  | stopped
  | failed
  deriving DecidableEq, Repr

/-- What a runner takes in: an election, or a decision of the traffic switch. -/
inductive Runner.Change where
  | election (next : Option Nat)
  | traffic (enabled : Bool)
  deriving DecidableEq, Repr

/-- What a runner is at: it waits, or it severs a backend before a change takes effect. The backend
is told by its place, and the sever by its place among those of that backend. -/
inductive Runner.Task where
  | idle
  | severing (backend sever : Nat) (change : Runner.Change)
  deriving DecidableEq, Repr

/-- A runner: its own copies of the active backend and of the traffic switch, how long it goes on
after a request to shut down, where it stands, and what it is at. -/
structure Runner where
  active : Option Nat
  trafficEnabled : Bool
  shutdownDelay : Duration
  phase : Runner.Phase
  task : Runner.Task
  deriving DecidableEq, Repr

namespace Runner

/-- A runner without an active backend. Traffic is enabled. -/
def start (shutdownDelay : Duration) : Runner :=
  { active := none, trafficEnabled := true, shutdownDelay, phase := .serving, task := .idle }

/-- Whether a runner still serves its port. -/
def isRunning (r : Runner) : Bool :=
  match r.phase with
  | .serving | .draining _ => true
  | .stopped | .failed => false

/-- Whether a runner can turn to what comes next. -/
def isReady (r : Runner) : Bool := r.isRunning && r.task == .idle

/-- The moment at which a runner stops, once shutdown was requested. -/
def deadline? (r : Runner) : Option Moment :=
  match r.phase with
  | .draining deadline => some deadline
  | .serving | .stopped | .failed => none

/-- The text by which a runner is described. -/
def describe (r : Runner) : String :=
  "BridgeRunner \x7b shutdown_delay: " ++ r.shutdownDelay.text ++ ", .. \x7d"

/-- Sever the sessions of the backend at a place. -/
def severAt (backends : List Backend) (i : Nat) : List Backend × List Effect :=
  match backends[i]? with
  | none => (backends, [])
  | some b =>
      let (b, effects) := b.sever
      (backends.set i b, effects)

/-- The backend whose sessions are severed before a change takes effect. -/
def severed? (r : Runner) : Change → Option Nat
  | .election next => if r.active = next then none else r.active
  | .traffic enabled => if r.trafficEnabled && !enabled then r.active else none

/-- A change takes effect. -/
def applyChange (r : Runner) (backends : List Backend) : Change → Runner × List Effect
  | .election next =>
      let name := next.bind fun i => backends[i]?.map (·.name)
      ({ r with active := next, task := .idle }, [.log (.routing name)])
  | .traffic enabled =>
      let toggled : List Effect :=
        if r.trafficEnabled = enabled then [] else [.log (.trafficToggled enabled)]
      ({ r with trafficEnabled := enabled, task := .idle }, toggled)

/-- Take in a change. It takes effect at once unless a backend has to be severed before. -/
def beginChange (r : Runner) (backends : List Backend) (change : Change) :
    Runner × List Backend × List Effect :=
  match (r.severed? change).bind fun i => backends[i]?.map fun b => (i, b) with
  | none =>
      let (r, effects) := r.applyChange backends change
      (r, backends, effects)
  | some (i, b) =>
      let (severed, effects) := b.beginSever
      ({ r with task := .severing i b.severs.length change }, backends.set i severed, effects)

/-- The next atomic step of a runner that takes in a change, or `none` if it waits: a step of the
sever, or the change takes effect because the sever has returned. -/
def stepChange (r : Runner) (backends : List Backend) (pick : Nat) :
    Option (Runner × List Backend × List Effect) :=
  match r.task with
  | .idle => none
  | .severing i k change =>
      match backends[i]? with
      | none => none
      | some b =>
          if b.severs[k]? = some .returned then
            let (r, effects) := r.applyChange backends change
            some (r, backends, effects)
          else
            (b.stepSever k pick).map fun (b, effects) => (r, backends.set i b, effects)

/-- Take at most `n` steps of taking in a change. -/
def changeFor : Nat → Runner → List Backend → Runner × List Backend × List Effect
  | 0, r, backends => (r, backends, [])
  | n + 1, r, backends =>
      match r.stepChange backends 0 with
      | none => (r, backends, [])
      | some (r, backends, effects) =>
          let (r, backends, more) := changeFor n r backends
          (r, backends, effects ++ more)

/-- Take in a change without a step of anything else in between. -/
def change (r : Runner) (backends : List Backend) (change : Change) :
    Runner × List Backend × List Effect :=
  let budget := (backends.map fun b => b.sessions + 3).foldl Nat.add 0
  let (r, backends, first) := r.beginChange backends change
  let (r, backends, more) := changeFor budget r backends
  (r, backends, first ++ more)

/-- Take in an election. -/
def elect (r : Runner) (backends : List Backend) (next : Option Nat) :
    Runner × List Backend × List Effect :=
  r.change backends (.election next)

/-- Take in a decision of the traffic switch. -/
def setTraffic (r : Runner) (backends : List Backend) (enabled : Bool) :
    Runner × List Backend × List Effect :=
  r.change backends (.traffic enabled)

/-- The backend to which a client that connects now is sent, if the client is not turned away. -/
def route (r : Runner) : Option Nat :=
  if r.isRunning && r.trafficEnabled then r.active else none

/-- A client connects. It is turned away, or a call to the active backend begins that remembers the
backend's present generation. -/
def accept (r : Runner) (backends : List Backend) (client : Duplex) : List Backend :=
  match r.route with
  | none => backends
  | some i => backends.modify i fun b => b.beginCall client b.generation

/-- Shutdown is requested. The first request alone sets the moment at which the runner stops. -/
def requestShutdown (r : Runner) (now : Moment) : Runner × List Effect :=
  match r.phase with
  | .serving =>
      let phase :=
        match now.later? r.shutdownDelay with
        | some deadline => Phase.draining deadline
        | none => Phase.failed
      ({ r with phase }, [.log (.draining r.shutdownDelay.seconds)])
  | .draining _ | .stopped | .failed => (r, [])

/-- Stop if the moment has come. -/
def tick (r : Runner) (now : Moment) : Runner × List Effect :=
  match r.phase with
  | .draining deadline =>
      if deadline ≤ now then ({ r with phase := .stopped }, [.log .proxyStopped]) else (r, [])
  | .serving | .stopped | .failed => (r, [])

end Runner

end GaleraProxy
