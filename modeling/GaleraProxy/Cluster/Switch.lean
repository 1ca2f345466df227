import GaleraProxy.Backend.Basic
import GaleraProxy.Channel

/-!
# The traffic switch

The cluster remembers which backend is active and whether the operator lets traffic through. Toggles
take effect one at a time, in the order in which they were called: each records its decision and
then hands it to every subscriber in turn, waiting where one has not taken the decision before.
-/

namespace GaleraProxy

/-- The active backend as the API shows it. -/
structure ActiveBackend where
  host : String
  port : UInt16
  name : String
  deriving DecidableEq, Repr

/-- The active backend that a backend is shown as. -/
def Backend.asActive (b : Backend) : ActiveBackend := ⟨b.host, b.port, b.name⟩

/-- A call of the switch that has not returned. It waits for its turn, or it has been recorded and
handed to the first `served` subscribers. -/
structure Toggle where
  enabled : Bool
  note : String
  served : Option Nat
  deriving DecidableEq, Repr

/-- The state of the switch. `pending` holds the calls that have not returned, the first of which
has its turn, and `called` counts all calls. -/
structure Cluster where
  active : Option ActiveBackend
  enabled : Bool
  note : String
  updated : Option Timestamp
  subscribers : List (Channel Bool)
  pending : List Toggle
  called : Nat
  deriving DecidableEq, Repr

namespace Cluster

/-- A switch that lets traffic through, with a number of subscribers. -/
def start (subscribers : Nat) : Cluster :=
  { active := none, enabled := true, note := "", updated := none
    subscribers := List.replicate subscribers .empty, pending := [], called := 0 }

/-- Note the active backend. -/
def setActive (c : Cluster) (active : Option ActiveBackend) : Cluster := { c with active }

/-- Call the switch. -/
def beginToggle (c : Cluster) (enabled : Bool) (note : String) : Cluster :=
  { c with pending := c.pending ++ [⟨enabled, note, none⟩], called := c.called + 1 }

/-- How many calls have returned. -/
def returned (c : Cluster) : Nat := c.called - c.pending.length

/-- Record a decision. -/
def record (c : Cluster) (enabled : Bool) (note : String) (now : Timestamp) : Cluster :=
  { c with enabled, note, updated := some now }

/-- The next step of the call that has its turn, or `none` if there is none or it has to wait. -/
def step (c : Cluster) (now : Timestamp) : Option (Cluster × List Effect) :=
  match c.pending with
  | [] => none
  | ⟨enabled, note, none⟩ :: rest =>
      some ({ c.record enabled note now with pending := ⟨enabled, note, some 0⟩ :: rest },
        [.log (.trafficUpdated enabled note)])
  | ⟨enabled, note, some served⟩ :: rest =>
      if served < c.subscribers.length then
        match broadcastStep c.subscribers served enabled with
        | some (subscribers, served) =>
            some ({ c with subscribers, pending := ⟨enabled, note, some served⟩ :: rest }, [])
        | none => none
      else some ({ c with pending := rest }, [])

/-- Take at most `n` steps. -/
def runFor : Nat → Timestamp → Cluster → Cluster × List Effect
  | 0, _, c => (c, [])
  | n + 1, now, c =>
      match c.step now with
      | none => (c, [])
      | some (next, effects) =>
          let (last, more) := runFor n now next
          (last, effects ++ more)

/-- Take steps until the call that has its turn has to wait. -/
def settle (c : Cluster) (now : Timestamp) : Cluster × List Effect :=
  c.runFor (c.pending.length * (c.subscribers.length + 2)) now

/-- What a subscriber receives; none is there after it has left. -/
def receive (c : Cluster) (i : Nat) : Option (Channel.Receiving Bool) :=
  (c.subscribers[i]?.filter (·.listened)).map Channel.receive

/-- Put a subscriber's channel back. -/
def setSubscriber (c : Cluster) (i : Nat) (channel : Channel Bool) : Cluster :=
  { c with subscribers := c.subscribers.set i channel }

/-- A subscriber leaves. -/
def dropSubscriber (c : Cluster) (i : Nat) : Cluster :=
  { c with subscribers := c.subscribers.modify i Channel.leave }

/-- Let every subscriber take what waits for it: the flags with the subscribers that took them. -/
def drain (c : Cluster) : List (Nat × Bool) × Cluster :=
  let taken := c.subscribers.zipIdx.filterMap fun (channel, i) =>
    channel.waiting.map fun b => (i, b)
  let subscribers := c.subscribers.map fun channel => { channel with waiting := none }
  (taken, { c with subscribers })

/-- Let calls return while every subscriber takes what it is handed, in at most `n` rounds. -/
def completeFor : Nat → Timestamp → Cluster → Cluster × List Effect × List (Nat × Bool)
  | 0, _, c => (c, [], [])
  | n + 1, now, c =>
      let (taken, c) := c.drain
      let (c, effects) := c.settle now
      let (c, moreEffects, moreTaken) := completeFor n now c
      (c, effects ++ moreEffects, taken ++ moreTaken)

/-- Let all calls return while every subscriber takes what it is handed. -/
def complete (c : Cluster) (now : Timestamp) : Cluster × List Effect × List (Nat × Bool) :=
  completeFor (c.pending.length + 2) now c

/-- The active backend in the API's form. -/
def activeJson (a : ActiveBackend) : Json :=
  .object [("host", .text a.host), ("port", .nat a.port.toNat), ("name", .text a.name)]

/-- The state of the switch in the API's form. `time` renders the time of the last update. -/
def toJson (time : Timestamp → String) (c : Cluster) : Json :=
  .object
    [("activeBackend", (c.active.map activeJson).getD .null),
     ("trafficEnabled", .bool c.enabled), ("message", .text c.note),
     ("lastUpdated", (c.updated.map fun t => .text (time t)).getD .null)]

end Cluster

end GaleraProxy
