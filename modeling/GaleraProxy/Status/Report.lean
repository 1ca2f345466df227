import GaleraProxy.Time.Timestamp

/-!
# Status reports

A status report says how many backends there are, which of them are unhealthy, how many sessions are
open, and when and from which backend the active one last changed.
-/

namespace GaleraProxy

/-- The latest failover: when it was seen, which backend was replaced, and the number of failovers
so far. This number has no bound: a counter of 64 bits agrees with it below `2 ^ 64`. -/
structure FailoverRecord where
  time : Timestamp
  replaced : String
  count : Nat
  deriving DecidableEq, Repr

/-- The state of the cluster at one moment. -/
structure StatusReport where
  total : Nat
  healthy : Nat
  unhealthy : List String
  sessions : Nat
  active : String
  failover : Option FailoverRecord
  deriving DecidableEq, Repr

end GaleraProxy
