import GaleraProxy.Cluster.Switch
import GaleraProxy.Steps

/-!
# The switch at work

Here the switch is called at any moment, and each of its subscribers takes a decision or leaves
whenever it likes. `Cluster.act` says what an atomic step leads to and what is to be seen of it:
which calls have begun, have been recorded and have returned, and which decisions subscribers took.
A run is any sequence of steps.
-/

namespace GaleraProxy

/-- What a call of the switch decides. -/
structure Decision where
  enabled : Bool
  note : String
  deriving DecidableEq, Repr

/-- The decision of a call. -/
def Toggle.decision (t : Toggle) : Decision := ⟨t.enabled, t.note⟩

namespace Cluster

/-- The decision that the switch shows. -/
def decision (c : Cluster) : Decision := ⟨c.enabled, c.note⟩

/-- The calls that have been recorded and have not returned. -/
def recorded (c : Cluster) : List Toggle := c.pending.filter (·.served.isSome)

/-- The calls that wait for their turn. -/
def queued (c : Cluster) : List Toggle := c.pending.filter (·.served.isNone)

/-- What is to be seen: a call begins, is recorded or returns, or the subscriber at a place takes a
decision. -/
inductive Signal where
  | called (d : Decision)
  | recorded (d : Decision)
  | returned (d : Decision)
  | taken (place : Nat) (enabled : Bool)
  deriving DecidableEq, Repr

/-- The calls among signals. -/
def calls (signals : List Signal) : List Decision :=
  signals.filterMap fun
    | .called d => some d
    | .recorded _ | .returned _ | .taken .. => none

/-- The recorded decisions among signals. -/
def decisions (signals : List Signal) : List Decision :=
  signals.filterMap fun
    | .recorded d => some d
    | .called _ | .returned _ | .taken .. => none

/-- The decisions of the calls that have returned. -/
def returns (signals : List Signal) : List Decision :=
  signals.filterMap fun
    | .returned d => some d
    | .called _ | .recorded _ | .taken .. => none

/-- What a subscriber took. -/
def takenBy (place : Nat) (signals : List Signal) : List Bool :=
  signals.filterMap fun
    | .taken other enabled => if other = place then some enabled else none
    | .called _ | .recorded _ | .returned _ => none

/-- The atomic steps: the switch is called, the call that has its turn goes on, a subscriber takes
what waits for it or leaves, or the active backend changes. -/
inductive Action where
  | call (d : Decision)
  | goOn
  | take (place : Nat)
  | leave (place : Nat)
  | elect (active : Option ActiveBackend)

/-- What is to be seen when the call that has its turn goes on. -/
def going (c : Cluster) : List Signal :=
  match c.pending with
  | [] => []
  | t :: _ =>
      match t.served with
      | none => [.recorded t.decision]
      | some served => if served < c.subscribers.length then [] else [.returned t.decision]

/-- What an action leads to at a moment and what is to be seen of it, or `none` if it cannot be
taken. -/
def act (c : Cluster) (now : Timestamp) : Action → Option (Cluster × List Signal)
  | .call d => some (c.beginToggle d.enabled d.note, [.called d])
  | .goOn => (c.step now).map fun (next, _) => (next, c.going)
  | .take place =>
      match c.receive place with
      | some (.value enabled channel) =>
          some (c.setSubscriber place channel, [.taken place enabled])
      | _ => none
  | .leave place => some (c.dropSubscriber place, [])
  | .elect active => some (c.setActive active, [])

/-- The state after a run and all that was to be seen of it, or `none` if an action cannot be taken.
-/
def run (c : Cluster) (actions : List (Timestamp × Action)) : Option (Cluster × List Signal) :=
  runSteps (fun c (now, action) => act c now action) c actions

end Cluster

end GaleraProxy
