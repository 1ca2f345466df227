import GaleraProxy.Error
import GaleraProxy.Session.Registry
import GaleraProxy.Steps

/-!
# A registry at work

Here any number of callers use one registry. Every operation is one atomic step, but for a sweep: it
takes all bridges out at once and closes them afterwards, one after the other in any order, while
other operations go on. `Registering.step` says what an atomic step leads to and what is to be seen
of it: which bridge was created or closed, which ones a sweep took out, and what a caller was
answered.
-/

namespace GaleraProxy

/-- Take a bridge out, or say that it is not registered. -/
def Registry.remove (r : Registry) (id : BridgeId) : Except ProxyError Registry :=
  match r.remove? id with
  | some r => .ok r
  | none => .error (.bridgeNotFound (toString id))

/-- A registry, and what each sweep so far has yet to close. -/
structure Registering where
  registry : Registry
  sweeps : List (List BridgeId)
  deriving DecidableEq, Repr

namespace Registering

/-- A registry that nobody has used. -/
def start : Registering := { registry := .empty, sweeps := [] }

/-- What is to be seen. -/
inductive Sign where
  | created (id : BridgeId)
  | removed (id : BridgeId)
  | refused (error : ProxyError)
  | answered (isMember : Bool)
  | counted (size : Nat)
  | swept (ids : List BridgeId)
  | closed (id : BridgeId)
  deriving DecidableEq, Repr

/-- The bridges that were created. -/
def created (signs : List Sign) : List BridgeId :=
  signs.filterMap fun
    | .created id => some id
    | .removed _ | .refused _ | .answered _ | .counted _ | .swept _ | .closed _ => none

/-- The bridges that were removed, each as often as it was. -/
def removed (signs : List Sign) : List BridgeId :=
  signs.filterMap fun
    | .removed id => some id
    | .created _ | .refused _ | .answered _ | .counted _ | .swept _ | .closed _ => none

/-- The bridges that sweeps took out, each as often as they did. -/
def swept (signs : List Sign) : List BridgeId :=
  signs.flatMap fun
    | .swept ids => ids
    | .created _ | .removed _ | .refused _ | .answered _ | .counted _ | .closed _ => []

/-- The bridges that were created and neither removed nor swept. -/
def remaining (signs : List Sign) : List BridgeId :=
  (created signs).filter fun id => id ∉ removed signs ∧ id ∉ swept signs

/-- The bridges on which `close` was called, each as often as it was. -/
def closed (signs : List Sign) : List BridgeId :=
  signs.filterMap fun
    | .closed id => some id
    | .created _ | .removed _ | .refused _ | .answered _ | .counted _ | .swept _ => none

/-- The atomic steps. In the last one a sweep closes one of the bridges that it has yet to close. -/
inductive Action where
  | create
  | remove (id : BridgeId)
  | contains (id : BridgeId)
  | size
  | sweep
  | close (sweep pick : Nat)
  deriving DecidableEq, Repr

/-- What an action leads to and what is to be seen of it, or `none` if it cannot be taken. -/
def step (s : Registering) : Action → Option (Registering × List Sign)
  | .create =>
      let (id, registry) := s.registry.create
      some ({ s with registry }, [.created id])
  | .remove id =>
      match s.registry.remove id with
      | .ok registry => some ({ s with registry }, [.removed id])
      | .error error => some (s, [.refused error])
  | .contains id => some (s, [.answered (s.registry.contains id)])
  | .size => some (s, [.counted s.registry.size])
  | .sweep =>
      let (ids, registry) := s.registry.sweep
      some ({ registry, sweeps := s.sweeps ++ [ids] }, [.swept ids])
  | .close k pick =>
      s.sweeps[k]?.bind fun ids =>
        ids[pick]?.map fun id =>
          ({ s with sweeps := s.sweeps.set k (ids.eraseIdx pick) }, [.closed id])

/-- The state after a run and all that was to be seen of it, or `none` if an action cannot be taken.
-/
def run (s : Registering) (actions : List Action) : Option (Registering × List Sign) :=
  runSteps step s actions

end Registering

end GaleraProxy
