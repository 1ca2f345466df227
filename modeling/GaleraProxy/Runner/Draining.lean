import GaleraProxy.Runner.Serving

/-!
# A runner that is told to shut down

Whether to shut down is shown by a watch, which holds the latest word and may lose its sender; to a
runner it makes no difference which of the two it finds. The runner heeds the watch as long as it
has no deadline, and it stops at its deadline or later. `Draining.step` says what an atomic step of
a runner at work, of the watch or of shutting down leads to; a run is any sequence of steps at any
moments.
-/

namespace GaleraProxy

/-- Whether shutdown is wanted, and whether the sender that says so is still there. -/
structure Watch where
  raised : Bool
  held : Bool
  deriving DecidableEq, Repr

/-- Whether a runner that looks at the watch shuts down. -/
def Watch.isDue (w : Watch) : Bool := w.raised || !w.held

/-- Whether an action is one of shutting down. -/
def Serving.Action.isShutdown : Serving.Action → Bool
  | requestShutdown | stop => true
  | elect _ | toggle _ | closeElections | closeTraffic | takeElection | takeTraffic | stepRunner _
  | connect _ | atBackend .. => false

/-- A runner at work with its watch. -/
structure Draining where
  serving : Serving
  watch : Watch
  deriving DecidableEq, Repr

namespace Draining

/-- A runner that starts, with configured backends and a watch. -/
def start (shutdownDelay : Duration) (backends : List BackendConfig) (watch : Watch) : Draining :=
  { serving := .start shutdownDelay backends, watch }

/-- The atomic steps: those of a runner at work, the sender of the watch says something or goes
away, and the runner heeds the watch or comes to its deadline. -/
inductive Action where
  | serve (action : Serving.Action)
  | raise (wanted : Bool)
  | lose
  | heed
  | expire

/-- What an action leads to at a moment, or `none` if it cannot be taken. -/
def step (d : Draining) (now : Moment) : Action → Option Draining
  | .serve action =>
      if action.isShutdown then none
      else (d.serving.step now action).map fun serving => { d with serving }
  | .raise wanted =>
      if d.watch.held then some { d with watch.raised := wanted } else none
  | .lose => some { d with watch.held := false }
  | .heed =>
      if d.serving.runner.phase = .serving ∧ d.watch.isDue = true then
        (d.serving.step now .requestShutdown).map fun serving => { d with serving }
      else none
  | .expire =>
      match d.serving.runner.deadline? with
      | some deadline =>
          if deadline ≤ now then (d.serving.step now .stop).map fun serving => { d with serving }
          else none
      | none => none

/-- The state after a run, or `none` if an action cannot be taken. -/
def run (d : Draining) : List (Moment × Action) → Option Draining
  | [] => some d
  | (now, action) :: rest => (d.step now action).bind fun next => run next rest

/-- What a run does apart from shutting down. -/
def served (actions : List (Moment × Action)) : List (Moment × Serving.Action) :=
  actions.filterMap fun (now, action) =>
    match action with
    | .serve action => some (now, action)
    | .raise _ | .lose | .heed | .expire => none

/-- The moments at which a run heeds the watch. -/
def heeded (actions : List (Moment × Action)) : List Moment :=
  actions.filterMap fun (now, action) =>
    match action with
    | .heed => some now
    | .serve _ | .raise _ | .lose | .expire => none

end Draining

end GaleraProxy
