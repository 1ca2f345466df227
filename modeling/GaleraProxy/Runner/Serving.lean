import GaleraProxy.Backend.Step
import GaleraProxy.Channel
import GaleraProxy.Runner.Basic

/-!
# A runner at work

Here a runner works by itself, with backends that no other runner uses. Elections and decisions of
the traffic switch wait in channels until the runner takes them. `Serving.step` says what an atomic
step of the runner, of a call or of the world around them leads to; a run is any sequence of steps.
-/

namespace GaleraProxy

/-- A runner with its backends and its two channels. -/
structure Serving where
  runner : Runner
  backends : List Backend
  elections : Channel (Option Nat)
  traffic : Channel Bool
  deriving DecidableEq, Repr

namespace Serving

/-- A runner that starts, with configured backends. -/
def start (shutdownDelay : Duration) (backends : List BackendConfig) : Serving :=
  { runner := .start shutdownDelay, backends := backends.map .ofConfig
    elections := .empty, traffic := .empty }

/-- The atomic steps. -/
inductive Action where
  | elect (next : Option Nat)
  | toggle (enabled : Bool)
  | closeElections
  | closeTraffic
  | takeElection
  | takeTraffic
  | stepRunner (pick : Nat)
  | connect (client : Duplex)
  | atBackend (place : Nat) (action : Backend.Action)
  | requestShutdown
  | stop

/-- Send into a channel whose sender is still there, if it has room. -/
def sendTo {α : Type} (channel : Channel α) (value : α) : Option (Channel α) :=
  if channel.fed then
    match channel.send value with
    | .queued channel => some channel
    | .gone => some channel
    | .full => none
  else none

/-- The runner takes in a change. -/
def beginChange (s : Serving) (change : Runner.Change) : Serving :=
  let (runner, backends, _) := s.runner.beginChange s.backends change
  { s with runner, backends }

/-- A runner that has ended leaves its channels. -/
def leave (s : Serving) : Serving :=
  if s.runner.isRunning then s
  else { s with elections := s.elections.leave, traffic := s.traffic.leave }

/-- What an action leads to at a moment, or `none` if it cannot be taken. -/
def step (s : Serving) (now : Moment) : Action → Option Serving
  | .elect next => (sendTo s.elections next).map fun elections => { s with elections }
  | .toggle enabled => (sendTo s.traffic enabled).map fun traffic => { s with traffic }
  | .closeElections => some { s with elections := s.elections.finish }
  | .closeTraffic => some { s with traffic := s.traffic.finish }
  | .takeElection =>
      if s.runner.isReady then
        match s.elections.receive with
        | .value next elections => some (beginChange { s with elections } (.election next))
        | .nothing | .ended => none
      else none
  | .takeTraffic =>
      if s.runner.isReady then
        match s.traffic.receive with
        | .value enabled traffic => some (beginChange { s with traffic } (.traffic enabled))
        | .nothing | .ended => none
      else none
  | .stepRunner pick =>
      (s.runner.stepChange s.backends pick).map fun (runner, backends, _) =>
        { s with runner, backends }
  | .connect client =>
      if s.runner.isReady then some { s with backends := s.runner.accept s.backends client }
      else none
  | .atBackend place action =>
      if action.isOwn then
        (s.backends[place]?.bind fun b => b.step action).map fun (b, _) =>
          { s with backends := s.backends.set place b }
      else none
  | .requestShutdown =>
      if s.runner.isReady then
        some (leave { s with runner := (s.runner.requestShutdown now).1 })
      else none
  | .stop =>
      if s.runner.isReady then some (leave { s with runner := (s.runner.tick now).1 }) else none

/-- The state after a run, or `none` if an action cannot be taken. -/
def run (s : Serving) : List (Moment × Action) → Option Serving
  | [] => some s
  | (now, action) :: rest => (s.step now action).bind fun next => run next rest

end Serving

end GaleraProxy
