import GaleraProxy.Backend.Basic
import GaleraProxy.Channel
import GaleraProxy.Monitor.Election
import GaleraProxy.Monitor.Reply
import GaleraProxy.Time.Duration

/-!
# Monitors

A monitor polls all backends at once, waits until every poll is over, and only then updates what it
knows and elects the active backend. A change is handed to every subscriber in turn before the next
cycle begins. Backends are named by their place in the configuration.
-/

namespace GaleraProxy

/-- The place of the elected backend, or none. -/
abbrev Elected := Option Nat

/-- Where a monitor stands: it waits for the next cycle, which is due at a moment, its polls are on
their way, it hands an election to subscribers of whom `served` have it, or it has stopped. -/
inductive Monitor.Phase where
  | waiting (due : Nat)
  | polling (polls : List Poll)
  | publishing (served : Nat)
  | stopped
  deriving DecidableEq, Repr

/-- A monitor and what it knows about each backend. -/
structure Monitor where
  policy : Policy
  tls : Bool
  timeout : Duration
  statuses : List BackendStatus
  active : Elected
  phase : Monitor.Phase
  subscribers : List (Channel Elected)
  deriving DecidableEq, Repr

namespace Monitor

/-- The time between two cycles is a fifth of an agent's time to answer. -/
def pollsPerTimeout : Nat := 5

/-- The time between two cycles. -/
def pollInterval (timeout : Duration) : Duration := timeout.part pollsPerTimeout

/-- A monitor of a number of backends and with a number of subscribers that starts now. -/
def create (policy : Policy) (tls : Bool) (timeout : Duration) (backends subscribers now : Nat) :
    Monitor :=
  { policy, tls, timeout, statuses := List.replicate backends .unknown, active := none
    phase := .waiting (now + (pollInterval timeout).nanos)
    subscribers := List.replicate subscribers .empty }

/-- The time between two cycles. -/
def interval (m : Monitor) : Duration := pollInterval m.timeout

/-- The text by which a monitor is described. -/
def describe (m : Monitor) : String :=
  "ClusterMonitor \x7b backends: " ++ toString m.statuses.length
    ++ ", subscribers: " ++ toString m.subscribers.length
    ++ ", healthcheck_timeout: " ++ m.timeout.text
    ++ ", use_lowest_index: " ++ toString (m.policy == .lowest)
    ++ ", use_tls: " ++ toString m.tls ++ ", .. \x7d"

/-- What is logged when a monitor starts. -/
def startEvent (m : Monitor) : Event :=
  .monitorStarted m.statuses.length (min m.interval.millis (UInt64.size - 1)) (m.policy == .lowest)
    m.tls

/-- The phase of waiting for the next cycle from now on. -/
def waitingFrom (m : Monitor) (now : Nat) : Phase := .waiting (now + m.interval.nanos)

/-- Begin a cycle if it is due: ask every backend's agent. -/
def beginCycle (m : Monitor) (backends : List Backend) (now : Nat) : Option Monitor :=
  match m.phase with
  | .waiting due =>
      if due ≤ now then
        some { m with phase := .polling (backends.map fun b => .start (b.statusUrls m.tls)) }
      else none
  | _ => none

/-- Change the poll of a backend. -/
def modifyPoll (m : Monitor) (i : Nat) (f : Poll → Poll) : Monitor :=
  match m.phase with
  | .polling polls => { m with phase := .polling (polls.modify i f) }
  | _ => m

/-- Take in what asking a backend's agent has come to. -/
def receive (m : Monitor) (i : Nat) (result : Except ProxyError AgentReply) : Monitor :=
  m.modifyPoll i (Poll.receive result)

/-- The poll of a backend crashes. -/
def crash (m : Monitor) (i : Nat) (error : String) : Monitor × List Effect :=
  (m.modifyPoll i fun _ => .crashed, [.log (.pollCrashed error)])

/-- The URL that the poll of a backend is asking. -/
def pollUrl? (m : Monitor) (i : Nat) : Option String :=
  match m.phase with
  | .polling polls => polls[i]?.bind Poll.url?
  | _ => none

/-- The outcomes of a cycle, once every poll is over. -/
def outcomes? (m : Monitor) : Option (List PollOutcome) :=
  match m.phase with
  | .polling polls => polls.mapM Poll.outcome?
  | _ => none

/-- What a poll changes in the status of its backend, and what is logged about a failure. -/
def applyStatus (backend : String) (s : BackendStatus) (outcome : PollOutcome) :
    BackendStatus × List Effect :=
  let (logged, counters) := s.counters.recordPoll
  let failed := counters.recordFailure
  let note (e : Event) : List Effect := if logged then [.log e] else []
  match outcome with
  | .answered healthy index => (⟨some index, healthy, counters.resetFailures⟩, [])
  | .rejected url reason =>
      (⟨s.index, false, failed⟩, note (.checkRejected backend url reason failed.streak))
  | .unreachable errors =>
      (⟨s.index, false, failed⟩, note (.checkFailed backend errors failed.streak))

/-- Apply a poll to its backend and the status of it. -/
def applyOutcome (b : Backend) (s : BackendStatus) (outcome : PollOutcome) :
    Backend × BackendStatus × List Effect :=
  let (status, failures) := applyStatus b.name s outcome
  let (backend, changes) := b.setHealthy status.healthy
  (backend, status, failures ++ changes)

/-- Apply the outcomes of a cycle in configured order. -/
def applyOutcomes : List Backend → List BackendStatus → List PollOutcome →
    List Backend × List BackendStatus × List Effect
  | b :: backends, s :: statuses, outcome :: outcomes =>
      let (b, s, effects) := applyOutcome b s outcome
      let (backends, statuses, more) := applyOutcomes backends statuses outcomes
      (b :: backends, s :: statuses, effects ++ more)
  | backends, statuses, _ => (backends, statuses, [])

/-- The candidates of an election, from a position on. -/
def candidatesFrom : Nat → List Backend → List BackendStatus → List Candidate
  | i, b :: backends, s :: statuses => ⟨i, b.name, s⟩ :: candidatesFrom (i + 1) backends statuses
  | _, _, _ => []

/-- The backend that the known statuses elect. -/
def choose (m : Monitor) (backends : List Backend) : Elected :=
  (elect m.policy (candidatesFrom 0 backends m.statuses)).map (·.position)

/-- The name of an elected backend. -/
def electedName (backends : List Backend) (e : Elected) : Option String :=
  e.bind fun i => backends[i]?.map (·.name)

/-- End a cycle whose polls are all over: update every status, and elect. The result is `none` while
a poll is on its way. -/
def finishCycle (m : Monitor) (backends : List Backend) (now : Nat) :
    Option (Monitor × List Backend × List Effect) := do
  let outcomes ← m.outcomes?
  let (backends, statuses, effects) := applyOutcomes backends m.statuses outcomes
  let m := { m with statuses }
  let chosen := m.choose backends
  if chosen = m.active then pure ({ m with phase := m.waitingFrom now }, backends, effects)
  else
    let change : Effect :=
      .log (.activeChanged (electedName backends m.active) (electedName backends chosen))
    pure ({ m with active := chosen, phase := .publishing 0 }, backends, effects ++ [change])

/-- Hand the election to the next subscriber, or wait for the next cycle if all have it. The result
is `none` if there is nothing to hand on or the next subscriber has to take an earlier one first. -/
def stepPublish (m : Monitor) (now : Nat) : Option Monitor :=
  match m.phase with
  | .publishing served =>
      if served < m.subscribers.length then
        match broadcastStep m.subscribers served m.active with
        | some (subscribers, served) => some { m with subscribers, phase := .publishing served }
        | none => none
      else some { m with phase := m.waitingFrom now }
  | _ => none

/-- Hand the election on as far as possible, in at most `n` steps. -/
def publishFor : Nat → Nat → Monitor → Monitor
  | 0, _, m => m
  | n + 1, now, m =>
      match m.stepPublish now with
      | some m => publishFor n now m
      | none => m

/-- Hand the election on as far as possible. -/
def publish (m : Monitor) (now : Nat) : Monitor := publishFor (m.subscribers.length + 1) now m

/-- Take the election that waits for a subscriber. -/
def takeElection (m : Monitor) (place : Nat) : Option (Elected × Monitor) :=
  match m.subscribers[place]?.map Channel.receive with
  | some (.value e channel) => some (e, { m with subscribers := m.subscribers.set place channel })
  | _ => none

/-- A subscriber leaves. -/
def dropSubscriber (m : Monitor) (place : Nat) : Monitor :=
  { m with subscribers := m.subscribers.modify place Channel.leave }

/-- The moment at which the next cycle is due. -/
def due? (m : Monitor) : Option Nat :=
  match m.phase with
  | .waiting due => some due
  | _ => none

/-- Whether the monitor has stopped. -/
def isStopped (m : Monitor) : Bool :=
  match m.phase with
  | .stopped => true
  | _ => false

/-- Stop. A cycle on its way is given up, and so is an election that has not reached everyone. -/
def stop (m : Monitor) : Monitor × List Effect :=
  if m.isStopped then (m, [])
  else
    ({ m with phase := .stopped, subscribers := m.subscribers.map Channel.finish },
      [.log .monitorStopped])

end Monitor

end GaleraProxy
