/-!
# Channels of one place

A channel holds at most one value that has been sent and not yet received. Either end may go away: a
value for a receiver that is gone is dropped, and a receiver whose sender is gone still gets the
value that waits.
-/

namespace GaleraProxy

/-- A channel with room for one value. `listened` and `fed` tell whether its ends are still there.
-/
structure Channel (α : Type) where
  waiting : Option α
  listened : Bool
  fed : Bool
  deriving DecidableEq, Repr

namespace Channel

variable {α : Type}

/-- A channel with both ends and nothing in it. -/
def empty : Channel α := ⟨none, true, true⟩

/-- What becomes of a value that is to be sent. -/
inductive Sending (α : Type) where
  | queued (channel : Channel α)
  | full
  | gone

/-- Send a value. -/
def send (c : Channel α) (a : α) : Sending α :=
  if !c.listened then .gone
  else
    match c.waiting with
    | some _ => .full
    | none => .queued { c with waiting := some a }

/-- What a receiver gets. -/
inductive Receiving (α : Type) where
  | value (a : α) (channel : Channel α)
  | nothing
  | ended

/-- Receive a value. -/
def receive (c : Channel α) : Receiving α :=
  match c.waiting with
  | some a => .value a { c with waiting := none }
  | none => if c.fed then .nothing else .ended

/-- The receiver goes away, and with it what it has not received. -/
def leave (c : Channel α) : Channel α := { c with waiting := none, listened := false }

/-- The sender goes away. -/
def finish (c : Channel α) : Channel α := { c with fed := false }

end Channel

/-- The next step in sending one value to each of several channels in turn, of which the first
`next` have been served: the channels and the number served after it, or `none` while the next
channel is full. -/
def broadcastStep {α : Type} (channels : List (Channel α)) (next : Nat) (a : α) :
    Option (List (Channel α) × Nat) :=
  match channels[next]? with
  | none => none
  | some c =>
      match c.send a with
      | .queued c => some (channels.set next c, next + 1)
      | .gone => some (channels, next + 1)
      | .full => none

end GaleraProxy
