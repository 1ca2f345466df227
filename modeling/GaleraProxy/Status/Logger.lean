import GaleraProxy.Backend.Basic
import GaleraProxy.Time.Duration

/-!
# The status logger

The status logger follows the elections, counts failovers, and reports the state of all backends at
regular times. A failover is an election that replaces a backend, be it by another one or by none.
-/

namespace GaleraProxy

/-- The elected backend and the failovers so far. Backends are named by place and by name, since two
may share a name. -/
structure FailoverTracker where
  active : Option (Nat × String)
  latest : Option FailoverRecord
  deriving DecidableEq, Repr

namespace FailoverTracker

/-- Nothing seen yet. -/
def start : FailoverTracker := ⟨none, none⟩

/-- Take in an election. -/
def observe (t : FailoverTracker) (next : Option (Nat × String)) (now : Timestamp) :
    FailoverTracker :=
  let latest :=
    match t.active with
    | none => t.latest
    | some (place, name) =>
        if next.map (·.1) = some place then t.latest
        else some ⟨now, name, (t.latest.map (·.count)).getD 0 + 1⟩
  ⟨next, latest⟩

end FailoverTracker

/-- The state of the backends, as seen with a tracker. -/
def StatusReport.collect (backends : List Backend) (t : FailoverTracker) : StatusReport :=
  { total := backends.length
    healthy := (backends.filter (·.healthy)).length
    unhealthy := (backends.filter fun b => !b.healthy).map (·.name)
    sessions := (backends.map (·.sessions)).foldl Nat.add 0
    active := ((t.active.map (·.2))).getD "none"
    failover := t.latest }

/-- Where a status logger stands: a report is due at a moment, it has stopped, or it has failed
because the clock cannot show when a report is due. -/
inductive StatusLogger.Phase where
  | waiting (due : Moment)
  | stopped
  | failed (reason : String)
  deriving DecidableEq, Repr

/-- A status logger: what it has seen, how often it reports, and where it stands. -/
structure StatusLogger where
  tracker : FailoverTracker
  interval : Duration
  phase : StatusLogger.Phase
  deriving DecidableEq, Repr

namespace StatusLogger

/-- What is said of reports that are to follow each other without any time in between. -/
def noPeriodMessage : String := "`period` must be non-zero."

/-- The phase of waiting for the next report from now on. -/
def Phase.after (interval : Duration) (now : Moment) : Phase :=
  match now.later? interval with
  | none => .failed Moment.overflowMessage
  | some due => if interval.nanos = 0 then .failed noPeriodMessage else .waiting due

/-- Start at a moment: the first report is due after one interval. -/
def start (interval : Duration) (now : Moment) : StatusLogger :=
  { tracker := .start, interval, phase := .after interval now }

/-- Whether reports are still to come. -/
def isRunning (l : StatusLogger) : Bool :=
  match l.phase with
  | .waiting _ => true
  | .stopped | .failed _ => false

/-- The moment at which the next report is due. -/
def due? (l : StatusLogger) : Option Moment :=
  match l.phase with
  | .waiting due => some due
  | .stopped | .failed _ => none

/-- The text by which a status logger of a number of backends is described. -/
def describe (l : StatusLogger) (backends : Nat) : String :=
  "StatusLogger \x7b backends: " ++ toString backends ++ ", interval: " ++ l.interval.text
    ++ ", .. \x7d"

/-- What is logged when a status logger of a number of backends starts. -/
def startEvent (l : StatusLogger) (backends : Nat) : Event :=
  .statusLoggerStarted l.interval.seconds backends

/-- Take in an election. -/
def observe (l : StatusLogger) (backends : List Backend) (e : Option Nat) (now : Timestamp) :
    StatusLogger :=
  let active := e.bind fun i => backends[i]?.map fun b => (i, b.name)
  { l with tracker := l.tracker.observe active now }

/-- Report if a report is due. The next one is due an interval after the moment of the report. This
leaves out that a ticker adds the interval to the moment at which the report was due as long as it
is no more than a few milliseconds behind. -/
def tick (l : StatusLogger) (backends : List Backend) (now : Moment) : StatusLogger × List Effect :=
  match l.phase with
  | .waiting due =>
      if due ≤ now then
        ({ l with phase := .after l.interval now }, [.log (.status (.collect backends l.tracker))])
      else (l, [])
  | .stopped | .failed _ => (l, [])

/-- Stop. -/
def stop (l : StatusLogger) : StatusLogger × List Effect :=
  match l.phase with
  | .waiting _ => ({ l with phase := .stopped }, [.log .statusLoggerStopped])
  | .stopped | .failed _ => (l, [])

end StatusLogger

end GaleraProxy
