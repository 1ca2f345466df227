/-!
# Electing the active backend

A monitor counts the polls of a backend and how many of them in a row have gone wrong. Failures are
logged on every fifth poll only, the first one included.

Of the healthy backends the one with the lowest or the highest index is elected. Equal indices are
ordered by name, in the same direction, and a backend without an index comes before all others, so
that the outcome does not depend on the order in which the backends are configured.
-/

namespace GaleraProxy

/-! ## Counting polls -/

/-- The polls of a backend and the failures since its last answer. -/
structure PollCounters where
  polls : Nat
  streak : Nat
  deriving DecidableEq, Repr

namespace PollCounters

/-- No polls yet. -/
def zero : PollCounters := ⟨0, 0⟩

/-- Failures are logged once in this many polls. -/
def logEvery : Nat := 5

/-- The number of polls is kept in 64 bits. -/
def limit : Nat := UInt64.size

/-- Count a poll, and tell whether its failure is to be logged. -/
def recordPoll (c : PollCounters) : Bool × PollCounters :=
  (c.polls % logEvery == 0, { c with polls := (c.polls + 1) % limit })

/-- Count a failure. The streak stays at its greatest value. -/
def recordFailure (c : PollCounters) : PollCounters :=
  { c with streak := min (c.streak + 1) (limit - 1) }

/-- An answer ends the streak. -/
def resetFailures (c : PollCounters) : PollCounters := { c with streak := 0 }

end PollCounters

/-! ## Elections -/

/-- What a monitor knows about a backend after its latest poll. The index is that of the last
answer. -/
structure BackendStatus where
  index : Option Nat
  healthy : Bool
  counters : PollCounters
  deriving DecidableEq, Repr

/-- Nothing known yet. -/
def BackendStatus.unknown : BackendStatus := ⟨none, false, .zero⟩

/-- Which end of the order is elected. -/
inductive Policy where
  | lowest
  | highest
  deriving DecidableEq, Repr

/-- A backend that stands for election: its place among the configured ones, its name and its
status. -/
structure Candidate where
  position : Nat
  name : String
  status : BackendStatus
  deriving DecidableEq, Repr

/-- The order of indices: none comes before every number. -/
def compareIndex : Option Nat → Option Nat → Ordering
  | none, none => .eq
  | none, some _ => .lt
  | some _, none => .gt
  | some a, some b => compare a b

/-- The order of candidates: by index, then by name. -/
def Candidate.compare (a b : Candidate) : Ordering :=
  (compareIndex a.status.index b.status.index).then (Ord.compare a.name b.name)

/-- Of two candidates in configured order, the one that a policy prefers. Of equal ones the lowest
policy takes the first and the highest the last. -/
def Policy.prefer (policy : Policy) (a b : Candidate) : Candidate :=
  match policy, a.compare b with
  | .lowest, .gt => b
  | .lowest, _ => a
  | .highest, .gt => a
  | .highest, _ => b

/-- The elected candidate, if any is healthy. -/
def elect (policy : Policy) (candidates : List Candidate) : Option Candidate :=
  match candidates.filter fun c => c.status.healthy with
  | [] => none
  | first :: others => some (others.foldl policy.prefer first)

end GaleraProxy
