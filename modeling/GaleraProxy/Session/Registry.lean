/-!
# The registry of open bridges

A registry holds the numbers of the bridges that are open to a backend. A bridge leaves it once,
either by itself or with all others in a sweep.
-/

namespace GaleraProxy

/-- The number of a bridge, unique in its registry. -/
abbrev BridgeId := Nat

/-- The open bridges, the latest last, and how many there have ever been. -/
structure Registry where
  members : List BridgeId
  created : Nat
  deriving Repr, DecidableEq

namespace Registry

/-- A registry without bridges. -/
def empty : Registry := ⟨[], 0⟩

/-- Register a new bridge. -/
def create (r : Registry) : BridgeId × Registry :=
  (r.created, ⟨r.members ++ [r.created], r.created + 1⟩)

/-- Whether a bridge is registered. -/
def contains (r : Registry) (id : BridgeId) : Bool := r.members.contains id

/-- Take a bridge out, or nothing if it is not registered. -/
def remove? (r : Registry) (id : BridgeId) : Option Registry :=
  if r.contains id then some { r with members := r.members.erase id } else none

/-- Take all bridges out. -/
def sweep (r : Registry) : List BridgeId × Registry := (r.members, { r with members := [] })

/-- The number of registered bridges. -/
def size (r : Registry) : Nat := r.members.length

/-- The text by which a registry is described. -/
def describe (r : Registry) : String := "Bridges \x7b size: " ++ toString r.size ++ " \x7d"

end Registry

end GaleraProxy
