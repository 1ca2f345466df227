import GaleraProxy.Monitor.Step
import GaleraProxy.Proofs.Monitor.Polling
import GaleraProxy.Proofs.Monitor.Publication
import Mathlib.Data.List.Induction

/-!
# What a monitor remembers about a backend

A monitor applies the outcomes of its polls to a backend one after the other. `memory_of_outcomes`
says what the status, the backend and the log are after any sequence of outcomes, in terms of the
outcomes alone. `known_of_run` says the same of any moment of a run, by the cycles that are over.
-/

namespace GaleraProxy

namespace PollOutcome

/-- Whether an outcome is an answer that says that the node is healthy. -/
def saysHealthy : PollOutcome → Bool
  | answered healthy _ => healthy
  | rejected .. | unreachable _ => false

/-- The index that an outcome gives, if it is an answer. -/
def index? : PollOutcome → Option Nat
  | answered _ index => some index
  | rejected .. | unreachable _ => none

/-- Whether an outcome is no answer. -/
def isFailure : PollOutcome → Bool
  | answered .. => false
  | rejected .. | unreachable _ => true

/-- What is logged about a failure of a backend that ends so long a streak. -/
def failureEvent (backend : String) (streak : Nat) : PollOutcome → List Effect
  | answered .. => []
  | rejected url reason => [.log (.checkRejected backend url reason streak)]
  | unreachable errors => [.log (.checkFailed backend errors streak)]

/-- The index of the last answer. -/
def lastIndex (outcomes : List PollOutcome) : Option Nat := (outcomes.filterMap index?).getLast?

/-- Whether the last outcome is an answer that says that the node is healthy. -/
def lastHealthy (outcomes : List PollOutcome) : Bool := outcomes.getLast?.any saysHealthy

/-- The number of failures since the last answer. -/
def failuresInRow (outcomes : List PollOutcome) : Nat :=
  (outcomes.reverse.takeWhile isFailure).length

theorem lastIndex_concat (outcomes : List PollOutcome) (o : PollOutcome) :
    lastIndex (outcomes ++ [o]) = (o.index?).or (lastIndex outcomes) := by
  cases o <;> simp [lastIndex, index?]

theorem lastHealthy_concat (outcomes : List PollOutcome) (o : PollOutcome) :
    lastHealthy (outcomes ++ [o]) = o.saysHealthy := by
  simp [lastHealthy]

theorem failuresInRow_concat (outcomes : List PollOutcome) (o : PollOutcome) :
    failuresInRow (outcomes ++ [o]) = if o.isFailure then failuresInRow outcomes + 1 else 0 := by
  cases h : o.isFailure <;> simp [failuresInRow, h]

theorem failuresInRow_le (outcomes : List PollOutcome) :
    failuresInRow outcomes ≤ outcomes.length := by
  have hle := (List.takeWhile_sublist isFailure (l := outcomes.reverse)).length_le
  rwa [List.length_reverse] at hle

end PollOutcome

namespace Monitor

open PollOutcome

/-- A backend and its status after outcomes have been applied one after the other, and what was
logged of each. -/
def applyAll (b : Backend) (s : BackendStatus) :
    List PollOutcome → Backend × BackendStatus × List (List Effect)
  | [] => (b, s, [])
  | outcome :: rest =>
      let (b, s, shown) := applyOutcome b s outcome
      let (b, s, more) := applyAll b s rest
      (b, s, shown :: more)

/-- Later outcomes are applied to what the first ones have led to. -/
theorem applyAll_append (b : Backend) (s : BackendStatus) (first others : List PollOutcome) :
    applyAll b s (first ++ others) =
      let (b, s, shown) := applyAll b s first
      let (b, s, more) := applyAll b s others
      (b, s, shown ++ more) := by
  induction first generalizing b s with
  | nil => rfl
  | cons outcome rest ih => simp only [List.cons_append, applyAll, ih]

/-- What is logged of an outcome after others: its failure, on every fifth poll, and a change of
health. -/
def shownAfter (b : Backend) (outcomes : List PollOutcome) (o : PollOutcome) : List Effect :=
  (if outcomes.length % 5 = 0 then o.failureEvent b.name (failuresInRow (outcomes ++ [o]))
    else []) ++
    if lastHealthy outcomes = o.saysHealthy then []
    else if o.saysHealthy then [.log (.becameHealthy b.name b.host)]
    else [.log (.becameUnhealthy b.name b.host)]

/-- The changes of health among effects: whether a backend became healthy. -/
def healthChanges (effects : List Effect) : List Bool :=
  effects.filterMap fun
    | .log (.becameHealthy ..) => some true
    | .log (.becameUnhealthy ..) => some false
    | _ => none

theorem healthChanges_append (first others : List Effect) :
    healthChanges (first ++ others) = healthChanges first ++ healthChanges others :=
  List.filterMap_append

/-- A failure is no change of health. -/
theorem healthChanges_shownAfter (b : Backend) (outcomes : List PollOutcome) (o : PollOutcome) :
    healthChanges (shownAfter b outcomes o) =
      if lastHealthy outcomes = o.saysHealthy then [] else [o.saysHealthy] := by
  have hfailure : ∀ streak, healthChanges (o.failureEvent b.name streak) = [] := by
    intro streak
    cases o <;> rfl
  rw [shownAfter, healthChanges_append]
  have hfirst : healthChanges (if outcomes.length % 5 = 0 then
      o.failureEvent b.name (failuresInRow (outcomes ++ [o])) else []) = [] := by
    split
    · exact hfailure _
    · rfl
  rw [hfirst, List.nil_append]
  split
  · rfl
  · split
    · rename_i hhealthy
      rw [hhealthy]
      rfl
    · rename_i hhealthy
      rw [Bool.eq_false_iff.mpr hhealthy]
      rfl

/-- Changes of health that alternate, the first one being that the backend became healthy, and what
they lead to. -/
structure Alternate (changes : List Bool) (healthy : Bool) : Prop where
  get : ∀ ⦃j : Nat⦄ ⦃change : Bool⦄, changes[j]? = some change → (change = true ↔ j % 2 = 0)
  parity : healthy = true ↔ changes.length % 2 = 1

/-- Health that is the same as before is no change. -/
theorem Alternate.concat {changes : List Bool} {healthy : Bool} (h : Alternate changes healthy)
    (next : Bool) : Alternate (changes ++ if healthy = next then [] else [next]) next := by
  split
  · rename_i hsame
    rw [List.append_nil, ← hsame]
    exact h
  · rename_i hnews
    have hnext : next = true ↔ changes.length % 2 = 0 := by
      have hparity := h.parity
      cases next <;> cases healthy <;> simp at hnews hparity ⊢ <;> omega
    refine ⟨fun j change hj => ?_, ?_⟩
    · rcases Nat.lt_or_ge j changes.length with hlt | hge
      · rw [List.getElem?_append_left hlt] at hj
        exact h.get hj
      · rw [List.getElem?_append_right hge] at hj
        obtain ⟨hlt, rfl⟩ := List.getElem?_eq_some_iff.mp hj
        rw [List.length_singleton] at hlt
        obtain rfl : j = changes.length := by omega
        rw [List.getElem_singleton]
        exact hnext
    · rw [List.length_append, List.length_singleton, hnext]
      omega

/-- What is remembered of a backend after outcomes: its health, its status, and what was logged. -/
structure Remembered (b : Backend) (outcomes : List PollOutcome) (b' : Backend)
    (s : BackendStatus) (shown : List (List Effect)) : Prop where
  backend : b' = { b with healthy := lastHealthy outcomes }
  status : s = ⟨lastIndex outcomes, lastHealthy outcomes, outcomes.length, failuresInRow outcomes⟩
  length_eq : shown.length = outcomes.length
  shown_get : ∀ ⦃k : Nat⦄ ⦃o : PollOutcome⦄, outcomes[k]? = some o →
    shown[k]? = some (shownAfter b (outcomes.take k) o)
  alternate : Alternate (healthChanges shown.flatten) (lastHealthy outcomes)

/-- One more outcome changes a status that tells of the others into one that tells of it as well. -/
theorem apply_status_eq (name : String) (outcomes : List PollOutcome) (o : PollOutcome)
    (hlength : outcomes.length + 1 < UInt64.size) :
    applyStatus name ⟨lastIndex outcomes, lastHealthy outcomes, outcomes.length,
        failuresInRow outcomes⟩ o =
      (⟨lastIndex (outcomes ++ [o]), o.saysHealthy, outcomes.length + 1,
        failuresInRow (outcomes ++ [o])⟩,
        if outcomes.length % 5 = 0 then o.failureEvent name (failuresInRow (outcomes ++ [o]))
        else []) := by
  have hpolls : (outcomes.length + 1) % PollCounters.limit = outcomes.length + 1 :=
    Nat.mod_eq_of_lt hlength
  have hstreak : min (failuresInRow outcomes + 1) (PollCounters.limit - 1) =
      failuresInRow outcomes + 1 := by
    have hle := failuresInRow_le outcomes
    exact Nat.min_eq_left (by simp only [PollCounters.limit]; omega)
  rw [lastIndex_concat, failuresInRow_concat]
  cases o with
  | answered healthy index =>
      simp [applyStatus, PollCounters.recordPoll, PollCounters.resetFailures, hpolls, index?,
        saysHealthy, isFailure, failureEvent]
  | rejected url reason =>
      simp [applyStatus, PollCounters.recordPoll, PollCounters.recordFailure,
        PollCounters.logEvery, hpolls, hstreak, index?, saysHealthy, isFailure, failureEvent]
  | unreachable errors =>
      simp [applyStatus, PollCounters.recordPoll, PollCounters.recordFailure,
        PollCounters.logEvery, hpolls, hstreak, index?, saysHealthy, isFailure, failureEvent]

variable {b b' : Backend} {outcomes : List PollOutcome} {s : BackendStatus}
  {shown : List (List Effect)}

/-- One more outcome, applied to what is remembered of others. -/
theorem Remembered.apply_eq (h : Remembered b outcomes b' s shown)
    (hlength : outcomes.length + 1 < UInt64.size) (o : PollOutcome) :
    applyOutcome b' s o = ({ b with healthy := o.saysHealthy },
      ⟨lastIndex (outcomes ++ [o]), o.saysHealthy, outcomes.length + 1,
        failuresInRow (outcomes ++ [o])⟩, shownAfter b outcomes o) := by
  rw [applyOutcome, h.backend, h.status]
  simp only [apply_status_eq b.name outcomes o hlength]
  rfl

/-- Nothing is remembered of a backend before its first poll. -/
theorem remembered_nil (hb : b.healthy = false) : Remembered b [] b .unknown [] where
  backend := by
    obtain ⟨name, host, port, statusPort, statusEndpoint, healthy, generation, registry, calls,
      severs⟩ := b
    obtain rfl : healthy = false := hb
    rfl
  status := rfl
  length_eq := rfl
  shown_get := nofun
  alternate := ⟨nofun, nofun, nofun⟩

/-- One more outcome is remembered together with the others. -/
theorem Remembered.concat (h : Remembered b outcomes b' s shown)
    (hlength : outcomes.length + 1 < UInt64.size) (o : PollOutcome) :
    Remembered b (outcomes ++ [o]) (applyOutcome b' s o).1 (applyOutcome b' s o).2.1
      (shown ++ [(applyOutcome b' s o).2.2]) := by
  rw [h.apply_eq hlength o]
  constructor
  case backend => rw [lastHealthy_concat]
  case status => rw [lastHealthy_concat, List.length_append, List.length_singleton]
  case length_eq => rw [List.length_append, List.length_append, h.length_eq]; rfl
  case shown_get =>
    intro k other hk
    rcases Nat.lt_or_ge k outcomes.length with hlt | hge
    · rw [List.getElem?_append_left hlt] at hk
      rw [List.getElem?_append_left (h.length_eq ▸ hlt), h.shown_get hk,
        List.take_append_of_le_length (Nat.le_of_lt hlt)]
    · have hlt := (List.getElem?_eq_some_iff.mp hk).1
      rw [List.length_append, List.length_singleton] at hlt
      obtain rfl : k = outcomes.length := by omega
      rw [List.getElem?_concat_length] at hk
      obtain rfl := Option.some.inj hk
      rw [List.take_left, ← h.length_eq, List.getElem?_concat_length]
  case alternate =>
    rw [List.flatten_append, List.flatten_singleton, healthChanges_append,
      healthChanges_shownAfter, lastHealthy_concat]
    exact h.alternate.concat o.saysHealthy

/-- Whatever is applied to a backend before its first poll is remembered. -/
theorem applyAll_remembered (hb : b.healthy = false) (outcomes : List PollOutcome)
    (hlength : outcomes.length < UInt64.size) :
    Remembered b outcomes (applyAll b .unknown outcomes).1 (applyAll b .unknown outcomes).2.1
      (applyAll b .unknown outcomes).2.2 := by
  induction outcomes using List.reverseRecOn with
  | nil => exact remembered_nil hb
  | append_singleton before o ih =>
      rw [List.length_append, List.length_singleton] at hlength
      rw [applyAll_append]
      exact (ih (Nat.lt_of_succ_lt hlength)).concat hlength o

/-- For every sequence of outcomes of the polls of a backend. The index is that of the last answer,
whatever has failed since, and the backend counts as healthy if the last outcome says so. The polls
are counted, and so are the failures since the last answer. Of every outcome is logged that it is a
failure, on every fifth poll, and that it changes the health. The changes of health alternate, and
first the backend becomes healthy. -/
theorem memory_of_outcomes (b : Backend) (outcomes : List PollOutcome) (hb : b.healthy = false)
    (hlength : outcomes.length < UInt64.size) :
    ∃ b' s shown, applyAll b .unknown outcomes = (b', s, shown) ∧
      s.index = lastIndex outcomes ∧
      s.healthy = lastHealthy outcomes ∧ b'.healthy = lastHealthy outcomes ∧
      s.counters.polls = outcomes.length ∧ s.counters.streak = failuresInRow outcomes ∧
      shown.length = outcomes.length ∧
      (∀ k o, outcomes[k]? = some o → shown[k]? = some (shownAfter b (outcomes.take k) o)) ∧
      ∀ j change, (healthChanges shown.flatten)[j]? = some change →
        (change = true ↔ j % 2 = 0) := by
  have h := applyAll_remembered hb outcomes hlength
  refine ⟨_, _, _, rfl, ?_⟩
  rw [h.status, h.backend]
  exact ⟨rfl, rfl, rfl, rfl, rfl, h.length_eq, fun k o hk => h.shown_get hk,
    fun j change hj => h.alternate.get hj⟩

/-- A node that answers late, goes away and comes back. -/
def comingAndGoing : List PollOutcome :=
  [.rejected "http://10.0.0.1:9201/status" "unexpected status 503 Service Unavailable",
    .answered true 3, .unreachable ["refused"], .unreachable ["refused"], .unreachable ["refused"],
    .unreachable ["lost", "refused"], .answered true 1, .answered false 2]

/-- The fourth failure in a row is logged, since it comes of the sixth poll. -/
theorem memory_of_outcomes_of_coming_and_going :
    ∃ b' s shown,
      applyAll (.ofConfig ⟨"a", "10.0.0.1", 3306, 9201, "status"⟩) .unknown comingAndGoing =
        (b', s, shown) ∧
      s.index = some 2 ∧ b'.healthy = false ∧ s.counters.polls = 8 ∧ s.counters.streak = 0 ∧
      shown[5]? = some [.log (.checkFailed "a" ["lost", "refused"] 4)] ∧
      shown[6]? = some [.log (.becameHealthy "a" "10.0.0.1")] := by
  obtain ⟨b', s, shown, happly, hindex, -, hhealthy, hpolls, hstreak, -, hshown, -⟩ :=
    memory_of_outcomes (.ofConfig ⟨"a", "10.0.0.1", 3306, 9201, "status"⟩) comingAndGoing rfl
      (by decide)
  exact ⟨b', s, shown, happly, hindex, hhealthy, hpolls, hstreak, hshown 5 _ rfl, hshown 6 _ rfl⟩

end Monitor

/-! ## Along a run -/

namespace Monitor

/-- A backend without an outcome and its status stay as they are. -/
theorem apply_outcomes_get_of_none {backends : List Backend} {statuses : List BackendStatus}
    {outcomes : List PollOutcome} {i : Nat} (h : outcomes[i]? = none) :
    (applyOutcomes backends statuses outcomes).1[i]? = backends[i]? ∧
      (applyOutcomes backends statuses outcomes).2.1[i]? = statuses[i]? := by
  induction backends generalizing statuses outcomes i with
  | nil => exact ⟨rfl, rfl⟩
  | cons b rest ih =>
      cases statuses with
      | nil => exact ⟨rfl, rfl⟩
      | cons s others =>
          cases outcomes with
          | nil => exact ⟨rfl, rfl⟩
          | cons outcome left =>
              cases i with
              | zero => cases h
              | succ i => exact ih h

/-- What the outcomes of a cycle make of the backend at a place. -/
theorem apply_outcomes_at {backends : List Backend} {statuses : List BackendStatus} {i : Nat}
    {b : Backend} {s : BackendStatus} (hb : backends[i]? = some b) (hs : statuses[i]? = some s)
    (outcomes : List PollOutcome) :
    (applyOutcomes backends statuses outcomes).1[i]? =
        some (applyAll b s outcomes[i]?.toList).1 ∧
      (applyOutcomes backends statuses outcomes).2.1[i]? =
        some (applyAll b s outcomes[i]?.toList).2.1 := by
  cases houtcome : outcomes[i]? with
  | none =>
      obtain ⟨hbackend, hstatus⟩ := apply_outcomes_get_of_none houtcome
      exact ⟨hbackend.trans hb, hstatus.trans hs⟩
  | some outcome => exact apply_outcomes_get hb hs houtcome

end Monitor

namespace Monitoring

/-- What the polls of the backend at a place have come to in cycles. -/
def outcomesAt (place : Nat) (cycles : List (List (String × PollOutcome))) : List PollOutcome :=
  cycles.flatMap fun polls => (polls[place]?.map (·.2)).toList

variable {s s' : Monitoring} {i : Nat} {b : Backend} {st : BackendStatus}

/-- Only the end of a cycle changes what is known of a backend, by the outcome of its poll. -/
theorem step_applies (hb : s.backends[i]? = some b) (hst : s.monitor.statuses[i]? = some st)
    {now : Moment} {action : Action} {more : List Signal}
    (hstep : s.step now action = some (s', more)) :
    s'.backends[i]? = some (Monitor.applyAll b st (outcomesAt i (s.completed action))).1 ∧
      s'.monitor.statuses[i]? =
        some (Monitor.applyAll b st (outcomesAt i (s.completed action))).2.1 := by
  have hmodify : ∀ place f, (s.monitor.modifyPoll place f).statuses = s.monitor.statuses := by
    intro place f
    rcases s.monitor.modify_poll_cases place f with heq | ⟨polls, -, heq⟩ <;> rw [heq]
  cases step_moves hstep with
  | beginCycle hm =>
      obtain ⟨-, rfl⟩ := Monitor.begin_cycle_cases hm
      exact ⟨hb, hst⟩
  | answer place result => exact ⟨hb, (congrArg (·[i]?) (hmodify place _)).trans hst⟩
  | crash place error => exact ⟨hb, (congrArg (·[i]?) (hmodify place _)).trans hst⟩
  | @finishCycle m backends effects now hm =>
      obtain ⟨polls, outcomes, statuses, shown, chosen, hphase, houtcomes, happly, -, hcases⟩ :=
        Monitor.finish_cycle_cases hm
      have hpolled : outcomesAt i (s.completed .finishCycle) = outcomes[i]?.toList := by
        have hcycle : s.completed .finishCycle = [pollsByName s.backends outcomes] := by
          simp [completed, Monitor.outcomes?, hphase, houtcomes]
        rw [hcycle, outcomesAt, List.flatMap_singleton, pollsByName, List.zip,
          List.getElem?_zipWith, List.getElem?_map, hb]
        cases outcomes[i]? <;> rfl
      obtain ⟨hbackend, hstatus⟩ := Monitor.apply_outcomes_at hb hst outcomes
      rw [happly] at hbackend hstatus
      rw [hpolled]
      rcases hcases with ⟨-, rfl⟩ | ⟨-, rfl⟩ <;> exact ⟨hbackend, hstatus⟩
  | publish hm =>
      obtain ⟨n, -, ⟨-, rfl⟩ | ⟨c, -, ⟨-, rfl⟩ | ⟨-, -, rfl⟩⟩⟩ := Monitor.step_publish_cases hm <;>
        exact ⟨hb, hst⟩
  | take place hm =>
      obtain ⟨c, -, -, rfl⟩ := Monitor.take_election_cases hm
      exact ⟨hb, hst⟩
  | leave place => exact ⟨hb, hst⟩
  | stop hrunning =>
      refine ⟨hb, ?_⟩
      show s.monitor.stop.1.statuses[i]? = some st
      simpa [Monitor.stop, hrunning] using hst

/-- A run applies to every backend what its polls have come to in the cycles that are over. -/
theorem run_applies (hb : s.backends[i]? = some b) (hst : s.monitor.statuses[i]? = some st)
    {actions : List (Moment × Action)} {signals : List Signal}
    (hrun : s.run actions = some (s', signals)) :
    s'.backends[i]? = some (Monitor.applyAll b st (outcomesAt i (s.cycles actions))).1 ∧
      s'.monitor.statuses[i]? =
        some (Monitor.applyAll b st (outcomesAt i (s.cycles actions))).2.1 := by
  induction actions generalizing s b st signals with
  | nil =>
      obtain ⟨rfl, -⟩ := Prod.mk.inj (Option.some.inj hrun)
      exact ⟨hb, hst⟩
  | cons first rest ih =>
      obtain ⟨now, action⟩ := first
      rw [run_eq_run_steps, run_steps_cons] at hrun
      obtain ⟨next, shown, others, hnext, hrest, rfl⟩ := hrun
      rw [← run_eq_run_steps] at hrest
      change s.step now action = some (next, shown) at hnext
      obtain ⟨hbackend, hstatus⟩ := step_applies hb hst hnext
      have hlast := ih hbackend hstatus hrest
      have hcycles : outcomesAt i (s.cycles ((now, action) :: rest)) =
          outcomesAt i (s.completed action) ++ outcomesAt i (next.cycles rest) := by
        rw [cycles, hnext, outcomesAt, List.flatMap_append]
        rfl
      rw [hcycles, Monitor.applyAll_append]
      exact hlast

/-- What a monitor knows of a backend at any moment since its start is told by the polls of this
backend in the cycles that are over. -/
theorem known_of_run (policy : Policy) (tls : Bool) (timeout : Duration)
    (backends : List Backend) (subscribers : Nat) (began : Moment)
    {actions : List (Moment × Action)} {signals : List Signal}
    (hrun : (start policy tls timeout backends subscribers began).run actions = some (s, signals))
    {polled : List PollOutcome} (hb : backends[i]? = some b) (hhealthy : b.healthy = false)
    (hpolled : outcomesAt i
      ((start policy tls timeout backends subscribers began).cycles actions) = polled)
    (hlength : polled.length < UInt64.size) :
    s.backends[i]? = some { b with healthy := PollOutcome.lastHealthy polled } ∧
      s.monitor.statuses[i]? = some ⟨PollOutcome.lastIndex polled, PollOutcome.lastHealthy polled,
        polled.length, PollOutcome.failuresInRow polled⟩ := by
  have hst : (start policy tls timeout backends subscribers began).monitor.statuses[i]? =
      some .unknown := by
    show (List.replicate backends.length BackendStatus.unknown)[i]? = some .unknown
    rw [List.getElem?_replicate, if_pos (List.getElem?_eq_some_iff.mp hb).1]
  obtain ⟨hbackend, hstatus⟩ := run_applies hb hst hrun
  rw [hpolled] at hbackend hstatus
  have h := Monitor.applyAll_remembered hhealthy polled hlength
  rw [h.backend] at hbackend
  rw [h.status] at hstatus
  exact ⟨hbackend, hstatus⟩

end Monitoring

end GaleraProxy
