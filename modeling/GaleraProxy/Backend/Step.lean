import GaleraProxy.Backend.Basic

/-!
# The steps of a backend

A `Backend.Action` is an atomic step of a call or of a sever, or something that comes from outside.
`Backend.step` says what it leads to; an action that cannot be taken has no result. A run is any
sequence of actions, so that any number of calls and severs may take their steps in any order.
-/

namespace GaleraProxy.Backend

/-- The atomic steps. A call is given the generation in which its client was sent here. -/
inductive Action where
  | beginCall (client : Duplex) (generation : Nat)
  | endDial (call : Nat) (result : Except String Duplex)
  | stepCall (call : Nat)
  | beginSever
  | stepSever (sever pick : Nat)
  | clientEvent (call : Nat) (event : Duplex.FarEvent)
  | serverEvent (call : Nat) (event : Duplex.FarEvent)
  | setHealthy (healthy : Bool)

/-- Whether an action is one of a call or comes from outside. Those who route to a backend begin the
calls, and they sever. -/
def Action.isOwn : Action → Bool
  | beginCall .. | beginSever | stepSever .. => false
  | endDial .. | stepCall _ | clientEvent .. | serverEvent .. | setHealthy _ => true

/-- What an action leads to, or `none` if it cannot be taken. -/
def step (b : Backend) : Action → Option (Backend × List Effect)
  | .beginCall client generation => some (b.beginCall client generation, [])
  | .endDial i result => some (b.endDial i result, [])
  | .stepCall i => b.stepCall i
  | .beginSever => some b.beginSever
  | .stepSever k pick => b.stepSever k pick
  | .clientEvent i event => some (b.modifyCall i (Call.mapClient fun d => d.afterFar event), [])
  | .serverEvent i event => some (b.modifyCall i (Call.mapServer fun d => d.afterFar event), [])
  | .setHealthy healthy => some (b.setHealthy healthy)

/-- The backend after a run, or `none` if an action cannot be taken. -/
def run (b : Backend) : List Action → Option Backend
  | [] => some b
  | action :: rest => (b.step action).bind fun next => run next.1 rest

end GaleraProxy.Backend
