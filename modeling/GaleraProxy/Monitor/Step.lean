import GaleraProxy.Monitor.Basic
import GaleraProxy.Time.Duration

/-!
# A monitor at work

Here a monitor works by itself, and each of its subscribers takes an election or leaves whenever it
likes. `Monitoring.step` says what an atomic step leads to and what is to be seen of it: which
backend a completed cycle has chosen, and which elections subscribers were sent and took. A run is
any sequence of steps.
-/

namespace GaleraProxy

/-- A monitor with its backends. -/
structure Monitoring where
  monitor : Monitor
  backends : List Backend
  deriving DecidableEq, Repr

namespace Monitoring

/-- A monitor that starts, with a number of subscribers. -/
def start (policy : Policy) (tls : Bool) (timeout : Duration) (backends : List Backend)
    (subscribers : Nat) (now : Moment) : Monitoring :=
  { monitor := .create policy tls timeout backends.length subscribers now, backends }

/-- What is to be seen: the choice of a completed cycle, an election that was sent to the subscriber
at a place, or one that the subscriber took. -/
inductive Signal where
  | chosen (e : Elected)
  | sent (place : Nat) (e : Elected)
  | taken (place : Nat) (e : Elected)
  deriving DecidableEq, Repr

/-- The choices among signals. -/
def choices (signals : List Signal) : List Elected :=
  signals.filterMap fun
    | .chosen e => some e
    | .sent .. | .taken .. => none

/-- What a subscriber was sent. -/
def sentTo (place : Nat) (signals : List Signal) : List Elected :=
  signals.filterMap fun
    | .sent other e => if other = place then some e else none
    | .chosen _ | .taken .. => none

/-- What a subscriber took. -/
def takenBy (place : Nat) (signals : List Signal) : List Elected :=
  signals.filterMap fun
    | .taken other e => if other = place then some e else none
    | .chosen _ | .sent .. => none

/-- The atomic steps. -/
inductive Action where
  | beginCycle
  | answer (backend : Nat) (result : Except ProxyError AgentReply)
  | crash (backend : Nat) (error : String)
  | finishCycle
  | publish
  | take (place : Nat)
  | leave (place : Nat)
  | stop

/-- What the next subscriber is sent, if it is still there and has room. -/
def sending (m : Monitor) : List Signal :=
  match m.phase with
  | .publishing served =>
      match m.subscribers[served]? with
      | none => []
      | some c =>
          match c.send m.active with
          | .queued _ => [.sent served m.active]
          | .full | .gone => []
  | .waiting _ | .polling _ | .stopped => []

/-- What an action leads to at a moment and what is to be seen of it, or `none` if it cannot be
taken. -/
def step (s : Monitoring) (now : Moment) : Action → Option (Monitoring × List Signal)
  | .beginCycle =>
      (s.monitor.beginCycle s.backends now).map fun monitor => ({ s with monitor }, [])
  | .answer i result => some ({ s with monitor := s.monitor.receive i result }, [])
  | .crash i error => some ({ s with monitor := (s.monitor.crash i error).1 }, [])
  | .finishCycle =>
      (s.monitor.finishCycle s.backends now).map fun (monitor, backends, _) =>
        ({ monitor, backends }, [.chosen (monitor.choose backends)])
  | .publish =>
      (s.monitor.stepPublish now).map fun monitor => ({ s with monitor }, sending s.monitor)
  | .take place =>
      (s.monitor.takeElection place).map fun (e, monitor) =>
        ({ s with monitor }, [.taken place e])
  | .leave place => some ({ s with monitor := s.monitor.dropSubscriber place }, [])
  | .stop =>
      if s.monitor.isStopped then none else some ({ s with monitor := s.monitor.stop.1 }, [])

/-- The state after a run and all that was to be seen of it, or `none` if an action cannot be taken.
-/
def run (s : Monitoring) : List (Moment × Action) → Option (Monitoring × List Signal)
  | [] => some (s, [])
  | (now, action) :: rest =>
      (s.step now action).bind fun (next, first) =>
        (run next rest).map fun (last, others) => (last, first ++ others)

end Monitoring

/-! ## The cycles of a run

What the polls of a cycle have come to is held by the names of the backends, so that runs of
monitors with different configurations can be compared. `Monitoring.cycles` lists the cycles that a
run completes.
-/

/-- What the polls of a cycle have come to, by the names of the backends. -/
def pollsByName (backends : List Backend) (outcomes : List PollOutcome) :
    List (String × PollOutcome) :=
  (backends.map (·.name)).zip outcomes

/-- The backends whose agents say that they are healthy, each with the index that its agent gives.
-/
def healthyAnswers (polls : List (String × PollOutcome)) : List (String × Nat) :=
  polls.filterMap fun (name, outcome) =>
    match outcome with
    | .answered true index => some (name, index)
    | .answered false _ | .rejected .. | .unreachable _ => none

namespace Monitoring

/-- The cycle that an action completes, if it is the end of one. -/
def completed (s : Monitoring) : Action → List (List (String × PollOutcome))
  | .finishCycle => (s.monitor.outcomes?.map (pollsByName s.backends)).toList
  | .beginCycle | .answer .. | .crash .. | .publish | .take _ | .leave _ | .stop => []

/-- The cycles that a run completes, in their order. -/
def cycles (s : Monitoring) : List (Moment × Action) → List (List (String × PollOutcome))
  | [] => []
  | (now, action) :: rest =>
      match s.step now action with
      | none => []
      | some (next, _) => s.completed action ++ cycles next rest

end Monitoring

end GaleraProxy
