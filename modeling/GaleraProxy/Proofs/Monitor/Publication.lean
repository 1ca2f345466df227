import GaleraProxy.Monitor.Step
import GaleraProxy.Proofs.Basic
import GaleraProxy.Proofs.Monitor.Changes
import GaleraProxy.Proofs.Monitor.Operations
import GaleraProxy.Steps

/-!
# A monitor publishes exactly the changes

A publication may wait for a subscriber, be released by it or by its leaving, or be cut short, while
cycles go on afterwards. `published_changes` says what every subscriber has been sent and has taken
by any moment of any run.
-/

namespace GaleraProxy.Monitoring

open Monitor (changes changes_concat changes_chain)

variable {s s' : Monitoring}

/-! ## Signals of several steps -/

@[simp] theorem choices_append (first others : List Signal) :
    choices (first ++ others) = choices first ++ choices others :=
  List.filterMap_append

@[simp] theorem sent_to_append (place : Nat) (first others : List Signal) :
    sentTo place (first ++ others) = sentTo place first ++ sentTo place others :=
  List.filterMap_append

@[simp] theorem taken_by_append (place : Nat) (first others : List Signal) :
    takenBy place (first ++ others) = takenBy place first ++ takenBy place others :=
  List.filterMap_append

/-- A publication makes no choice. -/
theorem sending_choices (m : Monitor) : choices (sending m) = [] := by
  unfold sending
  repeat' split
  all_goals rfl

theorem run_eq_run_steps (s : Monitoring) (actions : List (Moment × Action)) :
    s.run actions = runSteps (fun s (now, action) => step s now action) s actions := by
  induction actions generalizing s with
  | nil => rfl
  | cons head rest ih => simp only [run, runSteps, ih]

/-- What every step keeps, a run keeps. -/
theorem run_induction {P : Monitoring → List Signal → Prop}
    (hstep : ∀ {s s' : Monitoring} {seen more : List Signal} {now : Moment} {action : Action},
      P s seen → s.step now action = some (s', more) → P s' (seen ++ more))
    {actions : List (Moment × Action)} {s last : Monitoring} {seen signals : List Signal}
    (hrun : s.run actions = some (last, signals)) (h : P s seen) : P last (seen ++ signals) := by
  rw [run_eq_run_steps] at hrun
  exact run_steps_induction hstep hrun h

/-! ## What a publication has reached -/

/-- The subscribers before a place have the latest election, as far as the phase tells. -/
def Reached (m : Monitor) (n : Nat) : Prop :=
  match m.phase with
  | .waiting _ | .polling _ => m.subscribers.length ≤ n
  | .publishing served => served = n
  | .stopped => True

/-- The subscribers who are still there have been sent all changes, except those whom the latest one
has not reached; and whatever they have not taken waits for them. -/
structure Published (s : Monitoring) (signals : List Signal) : Prop where
  remembered : (choices signals).getLastD none = s.monitor.active
  isPrefix : ∀ place, sentTo place signals <+: changes (choices signals)
  kept : ∀ ⦃place : Nat⦄ ⦃c : Channel Elected⦄, s.monitor.subscribers[place]? = some c →
    c.listened = true → takenBy place signals ++ c.waiting.toList = sentTo place signals
  reached : ∃ n, Reached s.monitor n ∧
    ∀ ⦃place : Nat⦄ ⦃c : Channel Elected⦄, s.monitor.subscribers[place]? = some c →
      c.listened = true →
      (place < n → sentTo place signals = changes (choices signals)) ∧
      (n ≤ place → sentTo place signals ++ [s.monitor.active] = changes (choices signals))

/-- Nothing has been published by a monitor that starts. -/
theorem start_published (policy : Policy) (tls : Bool) (timeout : Duration)
    (backends : List Backend) (subscribers : Nat) (began : Moment) :
    (start policy tls timeout backends subscribers began).Published [] where
  remembered := rfl
  isPrefix := fun _ => List.prefix_rfl
  kept := fun _ _ hc _ => by
    obtain rfl := List.eq_of_mem_replicate (List.mem_of_getElem? hc)
    rfl
  reached := by
    refine ⟨subscribers, Nat.le_of_eq List.length_replicate, fun place c hc _ => ?_⟩
    have hlt := (List.getElem?_eq_some_iff.mp hc).1
    simp only [start, Monitor.create, List.length_replicate] at hlt
    exact ⟨fun _ => rfl, fun hle => absurd hlt (Nat.not_lt.mpr hle)⟩

/-- Nothing is published by a step after which the channels of those who are there hold what they
held before. -/
theorem Published.of_quiet {signals : List Signal} (h : s.Published signals) {m' : Monitor}
    (hactive : m'.active = s.monitor.active)
    (hreached : ∀ n, Reached s.monitor n → Reached m' n)
    (hchannels : ∀ {place : Nat} {c : Channel Elected}, m'.subscribers[place]? = some c →
      c.listened = true → ∃ d, s.monitor.subscribers[place]? = some d ∧ d.listened = true ∧
        d.waiting = c.waiting) : Published { s with monitor := m' } signals where
  remembered := h.remembered.trans hactive.symm
  isPrefix := h.isPrefix
  kept := fun place c hc hlive => by
    obtain ⟨d, hd, hlistened, hwaiting⟩ := hchannels hc hlive
    rw [← hwaiting]
    exact h.kept hd hlistened
  reached := by
    obtain ⟨n, hn, hall⟩ := h.reached
    refine ⟨n, hreached n hn, fun place c hc hlive => ?_⟩
    obtain ⟨d, hd, hlistened, -⟩ := hchannels hc hlive
    rw [hactive]
    exact hall hd hlistened

/-! ## One step -/

/-- A cycle that ends adds its choice, and nothing is sent before its publication. -/
theorem Published.finish_cycle {signals : List Signal} (h : s.Published signals) {now : Moment}
    {m' : Monitor} {backends' : List Backend} {effects : List Effect}
    (hstep : s.monitor.finishCycle s.backends now = some (m', backends', effects)) :
    Published ⟨m', backends'⟩ (signals ++ [.chosen (m'.choose backends')]) := by
  obtain ⟨polls, outcomes, statuses, shown, chosen, hphase, -, -, hchosen, hcases⟩ :=
    Monitor.finish_cycle_cases hstep
  rw [hchosen]
  have hchoices : choices (signals ++ [.chosen chosen]) = choices signals ++ [chosen] :=
    choices_append ..
  have hsent : ∀ place, sentTo place (signals ++ [.chosen chosen]) = sentTo place signals :=
    fun place => (sent_to_append ..).trans (List.append_nil _)
  have htaken : ∀ place, takenBy place (signals ++ [.chosen chosen]) = takenBy place signals :=
    fun place => (taken_by_append ..).trans (List.append_nil _)
  have hchanges := changes_concat (choices signals) chosen
  rw [h.remembered, ← hchoices] at hchanges
  obtain ⟨n, hn, hall⟩ := h.reached
  rcases hcases with ⟨rfl, rfl⟩ | ⟨hnews, rfl⟩
  · -- the choice is no news
    rw [if_pos rfl] at hchanges
    constructor
    case remembered => rw [hchoices, List.getLastD_concat]
    case isPrefix => simpa only [hsent, hchanges] using h.isPrefix
    case kept => simpa only [hsent, htaken] using h.kept
    case reached =>
      simp only [Reached, hphase] at hn
      exact ⟨n, hn, by simpa only [hsent, hchanges] using hall⟩
  · -- a change that nobody has been sent, while everybody had been sent the one before
    rw [if_neg (Ne.symm hnews)] at hchanges
    constructor
    case remembered => rw [hchoices, List.getLastD_concat]
    case isPrefix =>
      intro place
      rw [hsent, hchanges]
      exact (h.isPrefix place).trans (List.prefix_append _ _)
    case kept => simpa only [hsent, htaken] using h.kept
    case reached =>
      simp only [Reached, hphase] at hn
      refine ⟨0, rfl, fun place c hc hlistened => ⟨fun hlt => by omega, fun _ => ?_⟩⟩
      have hlt : place < n := Nat.lt_of_lt_of_le (List.getElem?_eq_some_iff.mp hc).1 hn
      rw [hsent, hchanges, (hall hc hlistened).1 hlt]

@[simp] theorem choices_sent (signals : List Signal) (place : Nat) (e : Elected) :
    choices (signals ++ [.sent place e]) = choices signals :=
  (choices_append ..).trans (List.append_nil _)

@[simp] theorem taken_by_sent (signals : List Signal) (place other : Nat) (e : Elected) :
    takenBy other (signals ++ [.sent place e]) = takenBy other signals :=
  (taken_by_append ..).trans (List.append_nil _)

@[simp] theorem sent_to_sent (signals : List Signal) (place : Nat) (e : Elected) :
    sentTo place (signals ++ [.sent place e]) = sentTo place signals ++ [e] := by
  simp [sentTo]

theorem sent_to_sent_of_ne {place other : Nat} (signals : List Signal) (e : Elected)
    (hne : other ≠ place) :
    sentTo other (signals ++ [.sent place e]) = sentTo other signals := by
  simp [sentTo, hne.symm]

/-- A publication passes over a subscriber that has left. -/
theorem Published.pass {signals : List Signal} (h : s.Published signals) {n : Nat}
    {c : Channel Elected} (hphase : s.monitor.phase = .publishing n)
    (hc : s.monitor.subscribers[n]? = some c) (hgone : c.listened = false) :
    Published { s with monitor := { s.monitor with phase := .publishing (n + 1) } } signals := by
  obtain ⟨k, hk, hall⟩ := h.reached
  simp only [Reached, hphase] at hk
  subst k
  refine ⟨h.remembered, h.isPrefix, h.kept, n + 1, rfl, fun place d hd hlistened => ?_⟩
  obtain ⟨hbefore, hafter⟩ := hall hd hlistened
  refine ⟨fun hlt => hbefore (Nat.lt_of_le_of_ne (Nat.le_of_lt_succ hlt) ?_),
    fun hle => hafter (Nat.le_of_succ_le hle)⟩
  rintro rfl
  obtain rfl := Option.some.inj (hc.symm.trans hd)
  cases hgone.symm.trans hlistened

/-- A publication sends the latest change to the next subscriber once that has room. -/
theorem Published.send {signals : List Signal} (h : s.Published signals) {n : Nat}
    {c : Channel Elected} (hphase : s.monitor.phase = .publishing n)
    (hc : s.monitor.subscribers[n]? = some c) (hlistened : c.listened = true)
    (hempty : c.waiting = none) :
    Published { s with
      monitor := { s.monitor with
        subscribers := s.monitor.subscribers.set n { c with waiting := some s.monitor.active }
        phase := .publishing (n + 1) } } (signals ++ [.sent n s.monitor.active]) := by
  obtain ⟨k, hk, hall⟩ := h.reached
  simp only [Reached, hphase] at hk
  subst k
  -- what was missing at this place is the latest change, and now it is sent
  have hlatest := (hall hc hlistened).2 (Nat.le_refl n)
  constructor
  case remembered => rw [choices_sent, h.remembered]
  case isPrefix =>
    intro place
    rw [choices_sent]
    by_cases hplace : place = n
    · have hsent : sentTo place (signals ++ [.sent n s.monitor.active]) =
          changes (choices signals) := by rw [hplace, sent_to_sent, hlatest]
      exact ⟨[], by rw [List.append_nil, hsent]⟩
    · rw [sent_to_sent_of_ne signals _ hplace]
      exact h.isPrefix place
  case kept =>
    intro place d hd hlive
    rw [getElem?_set_of_getElem? hc] at hd
    rw [taken_by_sent]
    split at hd
    · subst place
      obtain rfl := Option.some.inj hd
      have hbefore := h.kept hc hlistened
      rw [hempty, Option.toList_none, List.append_nil] at hbefore
      rw [sent_to_sent, hbefore]
      rfl
    · rw [sent_to_sent_of_ne signals _ (Ne.symm ‹_›)]
      exact h.kept hd hlive
  case reached =>
    refine ⟨n + 1, rfl, fun place d hd hlive => ?_⟩
    rw [getElem?_set_of_getElem? hc] at hd
    rw [choices_sent]
    split at hd
    · subst place
      refine ⟨fun _ => ?_, fun hle => absurd hle (Nat.not_succ_le_self n)⟩
      rw [sent_to_sent, hlatest]
    · rename_i hne
      obtain ⟨hbefore, hafter⟩ := hall hd hlive
      rw [sent_to_sent_of_ne signals _ (Ne.symm hne)]
      exact ⟨fun hlt => hbefore (by omega), fun hle => hafter (by omega)⟩

/-- A publication that goes on sends the latest change to one more subscriber, if it is there. -/
theorem Published.publish {signals : List Signal} (h : s.Published signals) {now : Moment}
    {m' : Monitor} (hstep : s.monitor.stepPublish now = some m') :
    Published { s with monitor := m' } (signals ++ sending s.monitor) := by
  obtain ⟨n, hphase, hcases⟩ := Monitor.step_publish_cases hstep
  rcases hcases with ⟨hover, rfl⟩ | ⟨c, hc, ⟨hgone, rfl⟩ | ⟨hlistened, hempty, rfl⟩⟩
  · have hquiet : sending s.monitor = [] := by
      simp only [sending, hphase, List.getElem?_eq_none hover]
    obtain ⟨k, hk, hall⟩ := h.reached
    simp only [Reached, hphase] at hk
    subst k
    rw [hquiet, List.append_nil]
    exact ⟨h.remembered, h.isPrefix, h.kept, n, hover, hall⟩
  · have hquiet : sending s.monitor = [] := by
      simp [sending, hphase, hc, Channel.send, hgone]
    rw [hquiet, List.append_nil]
    exact h.pass hphase hc hgone
  · have hsignal : sending s.monitor = [.sent n s.monitor.active] := by
      simp [sending, hphase, hc, Channel.send, hlistened, hempty]
    rw [hsignal]
    exact h.send hphase hc hlistened hempty

/-- A subscriber that takes an election leaves the rest as it is. -/
theorem Published.take {signals : List Signal} (h : s.Published signals) {place : Nat}
    {e : Elected} {m' : Monitor} (hstep : s.monitor.takeElection place = some (e, m')) :
    Published { s with monitor := m' } (signals ++ [.taken place e]) := by
  obtain ⟨c, hc, hwaiting, rfl⟩ := Monitor.take_election_cases hstep
  have hchoices : choices (signals ++ [.taken place e]) = choices signals :=
    (choices_append ..).trans (List.append_nil _)
  have hsent : ∀ other, sentTo other (signals ++ [.taken place e]) = sentTo other signals :=
    fun other => (sent_to_append ..).trans (List.append_nil _)
  obtain ⟨n, hn, hall⟩ := h.reached
  constructor
  case remembered => rw [hchoices, h.remembered]
  case isPrefix => simpa only [hsent, hchoices] using h.isPrefix
  case kept =>
    intro other d hd hlive
    rw [getElem?_set_of_getElem? hc] at hd
    rw [hsent]
    split at hd
    · subst other
      obtain rfl := Option.some.inj hd
      have hbefore := h.kept hc hlive
      rw [hwaiting] at hbefore
      simpa [takenBy] using hbefore
    · rename_i hne
      have hsame : takenBy other (signals ++ [.taken place e]) = takenBy other signals := by
        simp [takenBy, hne]
      rw [hsame]
      exact h.kept hd hlive
  case reached =>
    refine ⟨n, ?_, fun other d hd hlive => ?_⟩
    · show Reached { s.monitor with subscribers := _ } n
      unfold Reached at hn ⊢
      simpa using hn
    · rw [getElem?_set_of_getElem? hc] at hd
      rw [hsent, hchoices]
      split at hd
      · subst other
        obtain rfl := Option.some.inj hd
        exact hall hc hlive
      · exact hall hd hlive

/-- A subscriber that leaves changes nothing for the others. -/
theorem Published.leave {signals : List Signal} (h : s.Published signals) (place : Nat) :
    Published { s with monitor := s.monitor.dropSubscriber place } signals := by
  refine h.of_quiet rfl (fun n hn => ?_) fun {other c} hc hlive => ?_
  · unfold Reached at hn ⊢
    simpa [Monitor.dropSubscriber] using hn
  · simp only [Monitor.dropSubscriber, List.getElem?_modify, Option.map_eq_map,
      Option.map_eq_some_iff] at hc
    obtain ⟨d, hd, rfl⟩ := hc
    split at hlive
    · cases hlive
    · exact ⟨d, hd, hlive, by simp [*]⟩

/-- A monitor that stops publishes no more. -/
theorem Published.stop {signals : List Signal} (h : s.Published signals)
    (hrunning : s.monitor.isStopped = false) :
    Published { s with monitor := s.monitor.stop.1 } signals := by
  have hm : s.monitor.stop.1 = { s.monitor with
      phase := .stopped, subscribers := s.monitor.subscribers.map Channel.finish } := by
    simp [Monitor.stop, hrunning]
  rw [hm]
  refine h.of_quiet rfl (fun n hn => trivial) fun {place c} hc hlive => ?_
  obtain ⟨d, hd, rfl⟩ := Option.map_eq_some_iff.mp ((List.getElem?_map ..).symm.trans hc)
  exact ⟨d, hd, hlive, rfl⟩

/-- A poll that goes on publishes nothing. -/
theorem Published.modify_poll {signals : List Signal} (h : s.Published signals) (i : Nat)
    (f : Poll → Poll) : Published { s with monitor := s.monitor.modifyPoll i f } signals := by
  rcases s.monitor.modify_poll_cases i f with heq | ⟨polls, hphase, heq⟩
  · rw [heq]
    exact h
  · rw [heq]
    exact h.of_quiet rfl (fun n hn => by simpa only [Reached, hphase] using hn)
      fun hc hlive => ⟨_, hc, hlive, rfl⟩

/-- Everything that a step can do, and what is to be seen of it. -/
inductive Move (s : Monitoring) : Action → Monitoring → List Signal → Prop where
  | beginCycle {m : Monitor} {now : Moment} (h : s.monitor.beginCycle s.backends now = some m) :
      Move s .beginCycle { s with monitor := m } []
  | answer (i : Nat) (result : Except ProxyError AgentReply) :
      Move s (.answer i result) { s with monitor := s.monitor.receive i result } []
  | crash (i : Nat) (error : String) :
      Move s (.crash i error) { s with monitor := (s.monitor.crash i error).1 } []
  | finishCycle {m : Monitor} {backends : List Backend} {effects : List Effect} {now : Moment}
      (h : s.monitor.finishCycle s.backends now = some (m, backends, effects)) :
      Move s .finishCycle { monitor := m, backends } [.chosen (m.choose backends)]
  | publish {m : Monitor} {now : Moment} (h : s.monitor.stepPublish now = some m) :
      Move s .publish { s with monitor := m } (sending s.monitor)
  | take {m : Monitor} {e : Elected} (place : Nat)
      (h : s.monitor.takeElection place = some (e, m)) :
      Move s (.take place) { s with monitor := m } [.taken place e]
  | leave (place : Nat) :
      Move s (.leave place) { s with monitor := s.monitor.dropSubscriber place } []
  | stop (h : s.monitor.isStopped = false) :
      Move s .stop { s with monitor := s.monitor.stop.1 } []

theorem step_moves {now : Moment} {action : Action} {more : List Signal}
    (hstep : s.step now action = some (s', more)) : s.Move action s' more := by
  cases action with
  | beginCycle =>
      obtain ⟨m, hm, heq⟩ := Option.map_eq_some_iff.mp hstep
      obtain ⟨rfl, rfl⟩ := Prod.mk.inj heq
      exact .beginCycle hm
  | answer i result =>
      obtain ⟨rfl, rfl⟩ := Prod.mk.inj (Option.some.inj hstep)
      exact .answer i result
  | crash i error =>
      obtain ⟨rfl, rfl⟩ := Prod.mk.inj (Option.some.inj hstep)
      exact .crash i error
  | finishCycle =>
      obtain ⟨⟨m, backends, effects⟩, hm, heq⟩ := Option.map_eq_some_iff.mp hstep
      obtain ⟨rfl, rfl⟩ := Prod.mk.inj heq
      exact .finishCycle hm
  | publish =>
      obtain ⟨m, hm, heq⟩ := Option.map_eq_some_iff.mp hstep
      obtain ⟨rfl, rfl⟩ := Prod.mk.inj heq
      exact .publish hm
  | take place =>
      obtain ⟨⟨e, m⟩, hm, heq⟩ := Option.map_eq_some_iff.mp hstep
      obtain ⟨rfl, rfl⟩ := Prod.mk.inj heq
      exact .take place hm
  | leave place =>
      obtain ⟨rfl, rfl⟩ := Prod.mk.inj (Option.some.inj hstep)
      exact .leave place
  | stop =>
      simp only [Monitoring.step] at hstep
      split at hstep
      · cases hstep
      · obtain ⟨rfl, rfl⟩ := Prod.mk.inj (Option.some.inj hstep)
        exact .stop (Bool.eq_false_iff.mpr ‹_›)

/-- Every step publishes as it should. -/
theorem Published.step {signals more : List Signal} (h : s.Published signals) {now : Moment}
    {action : Action} (hstep : s.step now action = some (s', more)) :
    s'.Published (signals ++ more) := by
  cases step_moves hstep with
  | beginCycle hm =>
      obtain ⟨⟨due, hphase⟩, rfl⟩ := Monitor.begin_cycle_cases hm
      rw [List.append_nil]
      exact h.of_quiet rfl (fun n hn => by simpa only [Reached, hphase] using hn)
        fun hc hlive => ⟨_, hc, hlive, rfl⟩
  | answer i result =>
      rw [List.append_nil]
      exact h.modify_poll i _
  | crash i error =>
      rw [List.append_nil]
      exact h.modify_poll i _
  | finishCycle hm => exact h.finish_cycle hm
  | publish hm => exact h.publish hm
  | take place hm => exact h.take hm
  | leave place =>
      rw [List.append_nil]
      exact h.leave place
  | stop hrunning =>
      rw [List.append_nil]
      exact h.stop hrunning

/-- Whoever is still there has been sent all changes once the latest one has come there. -/
theorem Published.sent_of_come {signals : List Signal} (h : s.Published signals)
    (hrunning : s.monitor.isStopped = false) {place : Nat} {c : Channel Elected}
    (hc : s.monitor.subscribers[place]? = some c) (hlistened : c.listened = true)
    (hcome : ∀ n, s.monitor.phase = .publishing n → place < n) :
    sentTo place signals = changes (choices signals) := by
  obtain ⟨n, hn, hall⟩ := h.reached
  refine (hall hc hlistened).1 ?_
  have hlt : place < s.monitor.subscribers.length := (List.getElem?_eq_some_iff.mp hc).1
  cases hphase : s.monitor.phase with
  | waiting due => exact Nat.lt_of_lt_of_le hlt (by simpa only [Reached, hphase] using hn)
  | polling polls => exact Nat.lt_of_lt_of_le hlt (by simpa only [Reached, hphase] using hn)
  | publishing served =>
      simp only [Reached, hphase] at hn
      exact hn ▸ hcome served hphase
  | stopped => simp [Monitor.isStopped, hphase] at hrunning

/-! ## Runs -/

/-- For every run of a monitor, whatever comes of its polls and whatever its subscribers do. The
elections that a subscriber was sent begin the changes of the choices, so that none is followed by
the same and the first one is a backend. A subscriber who is still there has taken them in this
order, apart from one that may wait. Whoever is still there has been sent all changes, but for the
latest one where a publication has not come that far, so that of two of them the earlier one is
ahead by one election at most. Only somebody who is still there holds a publication up. -/
theorem published_changes (policy : Policy) (tls : Bool) (timeout : Duration)
    (backends : List Backend) (subscribers : Nat) (began : Moment)
    (actions : List (Moment × Action)) {s : Monitoring} {signals : List Signal}
    (hrun : (start policy tls timeout backends subscribers began).run actions =
      some (s, signals)) :
    (∀ place, sentTo place signals <+: changes (choices signals) ∧
      (sentTo place signals).head? ≠ some none ∧ (sentTo place signals).IsChain (· ≠ ·)) ∧
    (∀ place c, s.monitor.subscribers[place]? = some c → c.listened = true →
      takenBy place signals ++ c.waiting.toList = sentTo place signals) ∧
    (∃ n, Reached s.monitor n ∧ ∀ place c, s.monitor.subscribers[place]? = some c →
      c.listened = true →
      sentTo place signals = if place < n then changes (choices signals)
        else (changes (choices signals)).dropLast) ∧
    (∀ first second c d, first < second → s.monitor.subscribers[first]? = some c →
      c.listened = true → s.monitor.subscribers[second]? = some d → d.listened = true →
      (sentTo second signals).length ≤ (sentTo first signals).length ∧
        (sentTo first signals).length ≤ (sentTo second signals).length + 1) ∧
    ∀ n now, s.monitor.phase = .publishing n → (s.step now .publish = none ↔
      ∃ c, s.monitor.subscribers[n]? = some c ∧ c.listened = true ∧ c.waiting.isSome) := by
  have h : s.Published signals := run_induction (fun h hstep => h.step hstep) hrun
    (start_published policy tls timeout backends subscribers began)
  obtain ⟨n, hn, hall⟩ := h.reached
  refine ⟨fun place => ?_, fun place c hc hlive => h.kept hc hlive, ⟨n, hn, ?_⟩, ?_, ?_⟩
  · have hchain := List.IsChain.prefix (changes_chain (choices signals))
      ((List.prefix_cons_inj none).mpr (h.isPrefix place))
    refine ⟨h.isPrefix place, fun hhead => ?_, hchain.tail⟩
    exact List.isChain_cons.mp hchain |>.1 none hhead rfl
  · intro place c hc hlive
    obtain ⟨hbefore, hafter⟩ := hall hc hlive
    split
    · exact hbefore ‹_›
    · rw [← hafter (Nat.le_of_not_lt ‹_›), List.dropLast_concat]
  · intro first second c d hlt hc hlive hd hlive'
    have hfirst := hall hc hlive
    have hsecond := hall hd hlive'
    by_cases hreached : second < n
    · rw [hfirst.1 (by omega), hsecond.1 hreached]
      omega
    · have hlength := congrArg List.length (hsecond.2 (by omega))
      simp only [List.length_append, List.length_singleton] at hlength
      by_cases hahead : first < n
      · rw [hfirst.1 hahead]
        omega
      · have hlength' := congrArg List.length (hfirst.2 (by omega))
        simp only [List.length_append, List.length_singleton] at hlength'
        omega
  · intro k now hphase
    rw [← Monitor.step_publish_eq_none_iff now hphase]
    exact Option.map_eq_none_iff

/-- An agent that says that its node is healthy. -/
def healthyReply : AgentReply := ⟨200, Utf8.encode "\x7b\"healthy\":true\x7d"⟩

/-- First the one node is healthy and then the other. Of three subscribers the first takes what it
is sent, the second leaves, and the last takes nothing. -/
def failingOver : List (Moment × Action) :=
  [(1000, .beginCycle), (1000, .answer 0 (.ok healthyReply)), (1000, .crash 1 "panic"),
   (1001, .finishCycle), (1001, .publish), (1001, .publish), (1001, .publish), (1001, .publish),
   (1002, .take 0), (1003, .leave 1), (2001, .beginCycle), (2001, .crash 0 "panic"),
   (2001, .answer 1 (.ok healthyReply)), (2002, .finishCycle), (2002, .publish), (2002, .publish)]

/-- The last publication waits for the subscriber that takes nothing. -/
theorem published_changes_of_fail_over :
    ∃ (s : Monitoring) (signals : List Signal),
      (start .lowest false ⟨5000⟩
        [.ofConfig ⟨"a", "10.0.0.1", 3306, 9201, "status"⟩,
          .ofConfig ⟨"b", "10.0.0.2", 3306, 9201, "status"⟩] 3 0).run failingOver =
        some (s, signals) ∧
      sentTo 0 signals = [some 0, some 1] ∧ s.step 0 .publish = none ∧
      sentTo 0 signals <+: changes (choices signals) ∧
      ((sentTo 2 signals).length ≤ (sentTo 0 signals).length ∧
        (sentTo 0 signals).length ≤ (sentTo 2 signals).length + 1) := by
  have hend : ((start .lowest false ⟨5000⟩
      [.ofConfig ⟨"a", "10.0.0.1", 3306, 9201, "status"⟩,
        .ofConfig ⟨"b", "10.0.0.2", 3306, 9201, "status"⟩] 3 0).run failingOver).any
      (fun last => last.1.monitor.phase = .publishing 2 ∧
        last.1.monitor.subscribers = [⟨some (some 1), true, true⟩, ⟨none, false, true⟩,
          ⟨some (some 0), true, true⟩] ∧ sentTo 0 last.2 = [some 0, some 1]) = true := by
    decide +kernel
  obtain ⟨⟨s, signals⟩, hrun, hlast⟩ := (Option.any_eq_true _ _).mp hend
  obtain ⟨hphase, hsubscribers, hsent⟩ := of_decide_eq_true hlast
  obtain ⟨hbegins, -, -, hahead, hwaits⟩ :=
    published_changes .lowest false ⟨5000⟩ _ 3 0 failingOver hrun
  have hfirst := congrArg (·[0]?) hsubscribers
  have hlatest := congrArg (·[2]?) hsubscribers
  exact ⟨s, signals, hrun, hsent, (hwaits 2 0 hphase).mpr ⟨_, hlatest, rfl, rfl⟩, (hbegins 0).1,
    hahead 0 2 _ _ (by decide) hfirst rfl hlatest rfl⟩

end GaleraProxy.Monitoring
