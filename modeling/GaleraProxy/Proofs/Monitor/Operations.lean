import GaleraProxy.Monitor.Basic
import GaleraProxy.Proofs.Channel

/-!
# What a monitor can do

The operations of a monitor, each with all that it can come to. Callers use these and open no
operation. Whatever a monitor does, its subscribers stay informed.
-/

namespace GaleraProxy.Monitor

variable {m m' : Monitor}

/-- A cycle begins after a wait: every backend's agent is asked. -/
theorem begin_cycle_cases {backends : List Backend} {now : Nat}
    (h : m.beginCycle backends now = some m') :
    (∃ due, m.phase = .waiting due) ∧
      m' = { m with phase := .polling (backends.map fun b => .start (b.statusUrls m.tls)) } := by
  unfold beginCycle at h
  split at h
  · rename_i due hphase
    split at h
    · exact ⟨⟨due, hphase⟩, (Option.some.inj h).symm⟩
    · cases h
  · cases h

/-- A poll changes nothing but itself. -/
theorem modify_poll_cases (m : Monitor) (i : Nat) (f : Poll → Poll) :
    m.modifyPoll i f = m ∨ ∃ polls, m.phase = .polling polls ∧
      m.modifyPoll i f = { m with phase := .polling (polls.modify i f) } := by
  unfold modifyPoll
  split
  · exact .inr ⟨_, ‹_›, rfl⟩
  · exact .inl rfl

/-- A poll that goes on stops no monitor. -/
theorem modify_poll_running (h : m.isStopped = false) (i : Nat) (f : Poll → Poll) :
    (m.modifyPoll i f).isStopped = false := by
  rcases m.modify_poll_cases i f with heq | ⟨polls, -, heq⟩
  · rwa [heq]
  · rw [heq]
    rfl

/-- A cycle ends when all polls are over. A choice that is no news is followed by a wait, and one
that is by its publication. -/
theorem finish_cycle_cases {backends backends' : List Backend} {now : Nat} {effects : List Effect}
    (h : m.finishCycle backends now = some (m', backends', effects)) :
    ∃ polls outcomes statuses shown chosen, m.phase = .polling polls ∧
      polls.mapM Poll.outcome? = some outcomes ∧
      applyOutcomes backends m.statuses outcomes = (backends', statuses, shown) ∧
      m'.choose backends' = chosen ∧
      (chosen = m.active ∧ m' = { m with statuses, phase := m.waitingFrom now } ∨
        chosen ≠ m.active ∧
          m' = { m with statuses, active := chosen, phase := .publishing 0 }) := by
  obtain ⟨outcomes, houtcomes, hrest⟩ := Option.bind_eq_some_iff.mp h
  unfold outcomes? at houtcomes
  split at houtcomes
  · rename_i polls hphase
    refine ⟨polls, outcomes, (applyOutcomes backends m.statuses outcomes).2.1,
      (applyOutcomes backends m.statuses outcomes).2.2, m'.choose backends', hphase, houtcomes, ?_⟩
    simp only at hrest
    split at hrest
    · rename_i hsame
      obtain ⟨rfl, rfl, -⟩ := by simpa using hrest
      exact ⟨rfl, rfl, .inl ⟨hsame, rfl⟩⟩
    · rename_i hnews
      obtain ⟨rfl, rfl, -⟩ := by simpa using hrest
      exact ⟨rfl, rfl, .inr ⟨hnews, rfl⟩⟩
  · cases houtcomes

/-- A publication goes on with the next subscriber, or it is over. -/
theorem step_publish_cases {now : Nat} (h : m.stepPublish now = some m') :
    ∃ n, m.phase = .publishing n ∧
      (m.subscribers.length ≤ n ∧ m' = { m with phase := m.waitingFrom now } ∨
        ∃ c, m.subscribers[n]? = some c ∧
          (c.listened = false ∧ m' = { m with phase := .publishing (n + 1) } ∨
            c.listened = true ∧ c.waiting = none ∧
              m' = { m with
                subscribers := m.subscribers.set n { c with waiting := some m.active }
                phase := .publishing (n + 1) })) := by
  unfold stepPublish at h
  split at h
  · rename_i n hphase
    refine ⟨n, hphase, ?_⟩
    split at h
    · split at h
      · rename_i subscribers served hstep
        obtain rfl := Option.some.inj h
        obtain ⟨rfl, c, hc, hcases⟩ := broadcast_step_cases hstep
        refine .inr ⟨c, hc, ?_⟩
        rcases hcases with ⟨hgone, rfl⟩ | ⟨hlistened, hempty, rfl⟩
        · exact .inl ⟨hgone, rfl⟩
        · exact .inr ⟨hlistened, hempty, rfl⟩
      · cases h
    · rename_i hlt
      exact .inl ⟨Nat.le_of_not_lt hlt, (Option.some.inj h).symm⟩
  · cases h

/-- A publication waits only for a subscriber who is still there and has not taken an earlier
election. -/
theorem step_publish_eq_none_iff {n : Nat} (now : Nat) (hphase : m.phase = .publishing n) :
    m.stepPublish now = none ↔
      ∃ c, m.subscribers[n]? = some c ∧ c.listened = true ∧ c.waiting.isSome := by
  simp only [stepPublish, hphase]
  split
  · rename_i hlt
    have hc := List.getElem?_eq_getElem hlt
    have hwaits := broadcast_step_eq_none_iff (a := m.active) hc
    constructor
    · intro hnone
      split at hnone
      · cases hnone
      · exact ⟨_, hc, hwaits.mp ‹_›⟩
    · rintro ⟨c, hc', hfull⟩
      obtain rfl := Option.some.inj (hc.symm.trans hc')
      rw [hwaits.mpr hfull]
  · rename_i hle
    constructor
    · intro hnone
      cases hnone
    · rintro ⟨c, hc, -⟩
      exact absurd (List.getElem?_eq_some_iff.mp hc).1 hle

/-- A subscriber takes what waits for it. -/
theorem take_election_cases {place : Nat} {e : Elected}
    (h : m.takeElection place = some (e, m')) :
    ∃ c, m.subscribers[place]? = some c ∧ c.waiting = some e ∧
      m' = { m with subscribers := m.subscribers.set place { c with waiting := none } } := by
  unfold takeElection at h
  split at h
  · rename_i e' channel hreceive
    obtain ⟨c, hc, hreceive⟩ := Option.map_eq_some_iff.mp hreceive
    obtain ⟨hwaiting, rfl⟩ := Channel.receive_value hreceive
    obtain ⟨rfl, rfl⟩ := Prod.mk.inj (Option.some.inj h)
    exact ⟨c, hc, hwaiting, rfl⟩
  · cases h

/-!
## What the subscribers of a monitor know

The publication of a monitor is a broadcast of the election that it remembers. Whatever a monitor
does, a subscriber stays informed; `Informs.take` is the step of the subscriber itself.
-/

variable {place : Nat} {seen seen' : Elected → Prop}

/-- The number of subscribers who have the election on its way, if one is. -/
def handing (m : Monitor) : Option Nat :=
  match m.phase with
  | .publishing served => some served
  | .waiting _ | .polling _ | .stopped => none

/-- A subscriber is informed of the election that the monitor remembers. -/
def Informs (m : Monitor) (place : Nat) (seen : Elected → Prop) : Prop :=
  Informed m.subscribers m.handing m.active place seen

theorem Informs.begin_cycle (h : m.Informs place seen) {backends : List Backend} {now : Nat}
    (hstep : m.beginCycle backends now = some m') : m'.Informs place seen := by
  obtain ⟨⟨due, hphase⟩, rfl⟩ := begin_cycle_cases hstep
  simpa only [Informs, handing, hphase] using h

theorem Informs.modify_poll (h : m.Informs place seen) (i : Nat) (f : Poll → Poll) :
    (m.modifyPoll i f).Informs place seen := by
  rcases m.modify_poll_cases i f with heq | ⟨polls, hphase, heq⟩
  · rwa [heq]
  · rw [heq]
    simpa only [Informs, handing, hphase] using h

/-- A cycle that ends with news begins a publication. -/
theorem Informs.finish_cycle (h : m.Informs place seen) {backends backends' : List Backend}
    {now : Nat} {effects : List Effect}
    (hstep : m.finishCycle backends now = some (m', backends', effects)) :
    m'.Informs place seen := by
  obtain ⟨polls, outcomes, statuses, shown, chosen, hphase, -, -, -, ⟨-, rfl⟩ | ⟨-, rfl⟩⟩ :=
    finish_cycle_cases hstep
  · simp only [Informs, handing, hphase] at h
    exact h
  · exact Informed.begin_broadcast h chosen

theorem Informs.publish (h : m.Informs place seen) {now : Nat}
    (hstep : m.stepPublish now = some m') : m'.Informs place seen := by
  obtain ⟨n, hphase, hcases⟩ := step_publish_cases hstep
  simp only [Informs, handing, hphase] at h
  rcases hcases with ⟨hover, rfl⟩ | ⟨c, hc, ⟨hgone, rfl⟩ | ⟨-, -, rfl⟩⟩
  · exact h.end_broadcast hover
  · exact h.pass hc hgone
  · exact h.hand hc

/-- A subscriber that takes an election knows it. -/
theorem Informs.take (h : m.Informs place seen) {e : Elected}
    (hstep : m.takeElection place = some (e, m')) (hseen : seen' e) : m'.Informs place seen' := by
  obtain ⟨c, hc, hwaiting, rfl⟩ := take_election_cases hstep
  exact Informed.take h hc hwaiting hseen

/-- What another subscriber takes does not matter. -/
theorem Informs.take_other (h : m.Informs place seen) {other : Nat} {e : Elected}
    (hother : other ≠ place) (hstep : m.takeElection other = some (e, m')) :
    m'.Informs place seen := by
  obtain ⟨c, hc, -, rfl⟩ := take_election_cases hstep
  exact Informed.of_other h (by rw [getElem?_set_of_getElem? hc, if_neg hother])

/-- Another subscriber may leave. -/
theorem Informs.drop_other (h : m.Informs place seen) {other : Nat} (hother : other ≠ place) :
    (m.dropSubscriber other).Informs place seen := by
  refine Informed.of_other h ?_
  simp [dropSubscriber, hother]

/-- A subscriber of a monitor that starts has seen that there is no election. -/
theorem create_informs (policy : Policy) (tls : Bool) (timeout : Duration)
    {backends subscribers now : Nat} (hplace : place < subscribers) (hseen : seen none) :
    (create policy tls timeout backends subscribers now).Informs place seen := by
  refine ⟨.empty, ?_, rfl, fun _ => ⟨nofun, fun _ => hseen⟩⟩
  simp [create, hplace]

end GaleraProxy.Monitor
