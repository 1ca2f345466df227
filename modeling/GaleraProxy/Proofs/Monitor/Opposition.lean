import GaleraProxy.Monitor.Step
import GaleraProxy.Proofs.Monitor.Polling
import GaleraProxy.Proofs.Monitor.Publication
import GaleraProxy.Proofs.Monitor.Winner

/-!
# Monitors that ask the same agents

What a cycle elects depends on the healthy answers of that cycle alone: not on what was known
before, not on who is unhealthy, and not on the order in which the backends are configured.
`elections_by_name` compares the elections of two monitors, be it under one policy or under
opposite ones.
-/

namespace GaleraProxy

/-! ## Winning by healthy answers -/

/-- The name of a backend that a policy elects where these are the healthy answers. -/
def Policy.Elects (policy : Policy) (answers : List (String × ℕ)) : Option String → Prop
  | none => answers = []
  | some name => ∃ index, (name, index) ∈ answers ∧
      ∀ a ∈ answers, policy.Prefers (.of (some index) name) (.of (some a.2) a.1)

namespace Policy

variable {policy other : Policy} {answers answers' : List (String × ℕ)} {e e' : Option String}

/-- The order of the answers does not matter. -/
theorem Elects.perm (h : policy.Elects answers e) (hperm : answers.Perm answers') :
    policy.Elects answers' e := by
  cases e with
  | none =>
      obtain rfl : answers = [] := h
      exact List.perm_nil.mp hperm.symm
  | some name =>
      obtain ⟨index, hmem, hall⟩ := h
      exact ⟨index, hperm.mem_iff.mp hmem, fun a ha => hall a (hperm.mem_iff.mpr ha)⟩

theorem Elects.none_iff (h : policy.Elects answers e) : e = none ↔ answers = [] := by
  cases e with
  | none => exact ⟨fun _ => h, fun _ => rfl⟩
  | some name =>
      obtain ⟨index, hmem, -⟩ := h
      exact ⟨nofun, fun hnil => absurd (hnil ▸ hmem) List.not_mem_nil⟩

/-- A policy elects one name. -/
theorem Elects.unique (h : policy.Elects answers e) (h' : policy.Elects answers e') : e = e' := by
  cases e with
  | none => rw [h'.none_iff.mpr h]
  | some name =>
      cases e' with
      | none => rw [h.none_iff.mpr h']
      | some name' =>
          obtain ⟨i, hi, hfirst⟩ := h
          obtain ⟨j, hj, hsecond⟩ := h'
          exact congrArg some (Rank.name_eq ((hfirst _ hj).antisymm (hsecond _ hi)))

/-- The only backend with a healthy answer is elected by every policy. -/
theorem Elects.of_single (h : policy.Elects answers e) (h' : other.Elects answers e')
    (hlength : answers.length = 1) : e = e' ∧ e.isSome := by
  obtain ⟨⟨name, index⟩, rfl⟩ := List.length_eq_one_iff.mp hlength
  cases e with
  | none => cases h
  | some first =>
      cases e' with
      | none => cases h'
      | some second =>
          obtain ⟨i, hi, -⟩ := h
          obtain ⟨j, hj, -⟩ := h'
          obtain ⟨rfl, -⟩ := Prod.mk.inj (List.mem_singleton.mp hi)
          obtain ⟨rfl, -⟩ := Prod.mk.inj (List.mem_singleton.mp hj)
          exact ⟨rfl, rfl⟩

/-- Opposite policies elect different backends if there is more than one to choose from. -/
theorem Elects.ne_of_opposite (hne : policy ≠ other) (h : policy.Elects answers e)
    (h' : other.Elects answers e') (hnames : (answers.map (·.1)).Nodup)
    (hlength : 2 ≤ answers.length) : e ≠ e' := by
  rintro rfl
  cases e with
  | none =>
      obtain rfl : answers = [] := h
      cases hlength
  | some name =>
      obtain ⟨i, hi, hfirst⟩ := h
      obtain ⟨j, hj, hsecond⟩ := h'
      obtain rfl : j = i :=
        congrArg Prod.snd (List.inj_on_of_nodup_map hnames hj hi rfl)
      -- both policies prefer one answer, so that it is the only one
      have hsame : ∀ a ∈ answers, a = (name, j) := by
        intro a ha
        have hrank := (hfirst a ha).antisymm ((hsecond a ha).opposite hne.symm)
        exact List.inj_on_of_nodup_map hnames ha hi (Rank.name_eq hrank).symm
      have hrepeats := List.eq_replicate_of_mem hsame
      have hdistinct : answers.Nodup := .of_map _ hnames
      rw [hrepeats, List.nodup_replicate] at hdistinct
      omega

end Policy

/-! ## Healthy answers and candidates -/

/-- Healthy answers come from different backends if the polls do. -/
theorem healthyAnswers_nodup {polls : List (String × PollOutcome)}
    (h : (polls.map (·.1)).Nodup) : ((healthyAnswers polls).map (·.1)).Nodup := by
  refine h.sublist ?_
  induction polls with
  | nil => exact .slnil
  | cons poll rest ih =>
      obtain ⟨name, outcome⟩ := poll
      have hrest := ih (List.nodup_cons.mp h).2
      cases outcome with
      | answered healthy index =>
          cases healthy with
          | true => exact hrest.cons_cons name
          | false => exact hrest.cons name
      | rejected url reason => exact hrest.cons name
      | unreachable errors => exact hrest.cons name

/-- The names of the polls are those of the backends. -/
theorem pollsByName_names {backends : List Backend} {outcomes : List PollOutcome}
    (hlength : outcomes.length = backends.length) :
    (pollsByName backends outcomes).map (·.1) = backends.map (·.name) := by
  unfold pollsByName
  rw [List.map_fst_zip]
  rw [List.length_map, hlength]

namespace Monitor

/-- The name of a candidate is that of the backend at its place. -/
theorem candidate_name {i : ℕ} {backends : List Backend} {statuses : List BackendStatus}
    {c : Candidate} (hc : c ∈ candidatesFrom i backends statuses) :
    i ≤ c.position ∧ (backends[c.position - i]?).map (·.name) = some c.name := by
  induction backends generalizing i statuses with
  | nil => cases hc
  | cons b rest ih =>
      cases statuses with
      | nil => cases hc
      | cons s others =>
          rcases List.mem_cons.mp hc with rfl | hc
          · refine ⟨Nat.le_refl i, ?_⟩
            rw [Nat.sub_self]
            rfl
          · obtain ⟨hle, hname⟩ := ih hc
            refine ⟨by omega, ?_⟩
            rw [← hname, show c.position - i = (c.position - (i + 1)) + 1 by omega]
            rfl

/-- The candidates who are healthy after a cycle are those with healthy answers. -/
theorem healthy_candidates (i : ℕ) {backends : List Backend} {statuses : List BackendStatus}
    {outcomes : List PollOutcome} (hstatuses : statuses.length = backends.length)
    (houtcomes : outcomes.length = backends.length) :
    ((candidatesFrom i (applyOutcomes backends statuses outcomes).1
        (applyOutcomes backends statuses outcomes).2.1).filter fun c => c.status.healthy).map
      Candidate.rank =
    (healthyAnswers (pollsByName backends outcomes)).map fun a => .of (some a.2) a.1 := by
  induction backends generalizing i statuses outcomes with
  | nil =>
      obtain rfl := List.length_eq_zero_iff.mp hstatuses
      obtain rfl := List.length_eq_zero_iff.mp houtcomes
      rfl
  | cons b rest ih =>
      obtain ⟨s, others, rfl⟩ := List.exists_cons_of_length_eq_add_one hstatuses
      obtain ⟨outcome, left, rfl⟩ := List.exists_cons_of_length_eq_add_one houtcomes
      have hrest := ih (i + 1) (Nat.succ.inj hstatuses) (Nat.succ.inj houtcomes)
      cases outcome with
      | answered healthy index =>
          cases healthy with
          | true => exact congrArg (List.cons (Rank.of (some index) b.name)) hrest
          | false => exact hrest
      | rejected url reason => exact hrest
      | unreachable errors => exact hrest

/-- The name at the place of an elected backend. -/
def nameAt (names : List String) (e : Elected) : Option String := e.bind fun i => names[i]?

theorem electedName_eq (backends : List Backend) (e : Elected) :
    electedName backends e = nameAt (backends.map (·.name)) e := by
  cases e with
  | none => rfl
  | some i => exact (List.getElem?_map ..).symm

/-- After a cycle a monitor chooses by the healthy answers, whatever it knew before. -/
theorem choose_elects {m : Monitor} {backends backends' : List Backend}
    {statuses : List BackendStatus} {outcomes : List PollOutcome} {effects : List Effect}
    (hstatuses : statuses.length = backends.length) (houtcomes : outcomes.length = backends.length)
    (happly : applyOutcomes backends statuses outcomes = (backends', m.statuses, effects)) :
    m.policy.Elects (healthyAnswers (pollsByName backends outcomes))
      (electedName backends' (m.choose backends')) := by
  have hranks := healthy_candidates 0 hstatuses houtcomes
  rw [happly] at hranks
  have hanswer : ∀ c ∈ candidatesFrom 0 backends' m.statuses, c.status.healthy = true →
      ∃ a ∈ healthyAnswers (pollsByName backends outcomes), Rank.of (some a.2) a.1 = c.rank := by
    intro c hc hhealthy
    rw [← List.mem_map, ← hranks]
    exact List.mem_map_of_mem (List.mem_filter.mpr ⟨hc, hhealthy⟩)
  have hcandidate : ∀ a ∈ healthyAnswers (pollsByName backends outcomes),
      ∃ c ∈ candidatesFrom 0 backends' m.statuses, c.status.healthy = true ∧
        c.rank = Rank.of (some a.2) a.1 := by
    intro a ha
    have hmem := List.mem_map_of_mem (f := fun a => Rank.of (some a.2) a.1) ha
    rw [← hranks, List.mem_map] at hmem
    obtain ⟨c, hc, hrank⟩ := hmem
    obtain ⟨hstands, hhealthy⟩ := List.mem_filter.mp hc
    exact ⟨c, hstands, hhealthy, hrank⟩
  cases helect : elect m.policy (candidatesFrom 0 backends' m.statuses) with
  | none =>
      rw [choose, helect]
      show healthyAnswers (pollsByName backends outcomes) = []
      refine List.eq_nil_iff_forall_not_mem.mpr fun a ha => ?_
      obtain ⟨c, hc, hhealthy, -⟩ := hcandidate a ha
      cases hhealthy.symm.trans (elect_eq_none_iff.mp helect c hc)
  | some c =>
      have hwins := elect_wins helect
      obtain ⟨-, hname⟩ := candidate_name hwins.stands
      rw [choose, helect]
      show m.policy.Elects _ (backends'[c.position]?.map (·.name))
      rw [Nat.sub_zero] at hname
      rw [hname]
      obtain ⟨⟨name, index⟩, ha, hrank⟩ := hanswer c hwins.stands hwins.healthy
      rw [← Rank.name_eq hrank]
      refine ⟨index, ha, fun b hb => ?_⟩
      obtain ⟨d, hd, hhealthy, hother⟩ := hcandidate b hb
      rw [hrank, ← hother]
      exact hwins.preferred d hd hhealthy

end Monitor

/-! ## Runs -/

namespace Monitoring

open Monitor (changes nameAt electedName)

variable {s s' : Monitoring} {policy : Policy} {names : List String}

/-- What a monitor of named backends keeps: its policy, and a status and a poll of each of them. -/
structure Watches (s : Monitoring) (policy : Policy) (names : List String) : Prop where
  names_eq : s.backends.map (·.name) = names
  policy_eq : s.monitor.policy = policy
  statuses : s.monitor.statuses.length = names.length
  polls : ∀ polls, s.monitor.phase = .polling polls → polls.length = names.length

/-- A monitor starts with a status of each backend. -/
theorem start_watches (policy : Policy) (tls : Bool) (timeout : Duration)
    (backends : List Backend) (subscribers : ℕ) (began : Moment) :
    (start policy tls timeout backends subscribers began).Watches policy
      (backends.map (·.name)) where
  names_eq := rfl
  policy_eq := rfl
  statuses := by simp [start, Monitor.create]
  polls := nofun

theorem Watches.of_same (h : s.Watches policy names) {m : Monitor}
    (hpolicy : m.policy = s.monitor.policy) (hstatuses : m.statuses = s.monitor.statuses)
    (hphase : ∀ polls, m.phase ≠ .polling polls) :
    Watches { s with monitor := m } policy names where
  names_eq := h.names_eq
  policy_eq := hpolicy.trans h.policy_eq
  statuses := by rw [hstatuses, h.statuses]
  polls := fun polls hpolls => absurd hpolls (hphase polls)

theorem Watches.modify_poll (h : s.Watches policy names) (i : ℕ) (f : Poll → Poll) :
    Watches { s with monitor := s.monitor.modifyPoll i f } policy names := by
  rcases s.monitor.modify_poll_cases i f with heq | ⟨polls, hphase, heq⟩
  · rw [heq]
    exact h
  · rw [heq]
    refine ⟨h.names_eq, h.policy_eq, h.statuses, fun polls' hpolls => ?_⟩
    obtain rfl := Monitor.Phase.polling.inj hpolls
    rw [List.length_modify, h.polls polls hphase]

/-- The outcomes of a cycle leave the names as they are. -/
theorem apply_outcomes_names (backends : List Backend) (statuses : List BackendStatus)
    (outcomes : List PollOutcome) :
    (Monitor.applyOutcomes backends statuses outcomes).1.map (·.name) = backends.map (·.name) := by
  have h := Monitor.apply_outcomes_without_health backends statuses outcomes
  have hnames := congrArg (List.map Backend.name) h
  rwa [List.map_map, List.map_map] at hnames

theorem Watches.finish_cycle (h : s.Watches policy names) {now : Moment} {m : Monitor}
    {backends : List Backend} {effects : List Effect}
    (hstep : s.monitor.finishCycle s.backends now = some (m, backends, effects)) :
    Watches ⟨m, backends⟩ policy names := by
  obtain ⟨polls, outcomes, statuses, shown, chosen, -, -, happly, -, hcases⟩ :=
    Monitor.finish_cycle_cases hstep
  have hnames := apply_outcomes_names s.backends s.monitor.statuses outcomes
  obtain ⟨-, hlength⟩ := Monitor.apply_outcomes_length s.backends s.monitor.statuses outcomes
  rw [happly] at hnames hlength
  rcases hcases with ⟨-, rfl⟩ | ⟨-, rfl⟩
  · exact ⟨hnames.trans h.names_eq, h.policy_eq, hlength.trans h.statuses, nofun⟩
  · exact ⟨hnames.trans h.names_eq, h.policy_eq, hlength.trans h.statuses, nofun⟩

theorem Watches.step (h : s.Watches policy names) {now : Moment} {action : Action}
    {more : List Signal} (hstep : s.step now action = some (s', more)) :
    s'.Watches policy names := by
  cases step_moves hstep with
  | beginCycle hm =>
      obtain ⟨-, rfl⟩ := Monitor.begin_cycle_cases hm
      refine ⟨h.names_eq, h.policy_eq, h.statuses, fun polls hpolls => ?_⟩
      obtain rfl := Monitor.Phase.polling.inj hpolls
      rw [List.length_map, ← h.names_eq, List.length_map]
  | answer i result => exact h.modify_poll i _
  | crash i error => exact h.modify_poll i _
  | finishCycle hm => exact h.finish_cycle hm
  | publish hm =>
      obtain ⟨n, -, ⟨-, rfl⟩ | ⟨c, -, ⟨-, rfl⟩ | ⟨-, -, rfl⟩⟩⟩ := Monitor.step_publish_cases hm
      · exact h.of_same rfl rfl (by rintro polls ⟨⟩)
      · exact h.of_same rfl rfl (by rintro polls ⟨⟩)
      · exact h.of_same rfl rfl (by rintro polls ⟨⟩)
  | take place hm =>
      obtain ⟨c, -, -, rfl⟩ := Monitor.take_election_cases hm
      exact ⟨h.names_eq, h.policy_eq, h.statuses, h.polls⟩
  | leave place => exact ⟨h.names_eq, h.policy_eq, h.statuses, h.polls⟩
  | stop hrunning =>
      have hm : s.monitor.stop.1 = { s.monitor with
          phase := .stopped, subscribers := s.monitor.subscribers.map Channel.finish } := by
        simp [Monitor.stop, hrunning]
      rw [hm]
      exact h.of_same rfl rfl (by rintro polls ⟨⟩)

/-- What a cycle chooses: the winner of the healthy answers, at its place among the names. -/
structure Chooses (policy : Policy) (names : List String) (polls : List (String × PollOutcome))
    (e : Elected) : Prop where
  polled : polls.map (·.1) = names
  elects : policy.Elects (healthyAnswers polls) (nameAt names e)
  inRange : ∀ i, e = some i → i < names.length

/-- A step that completes a cycle shows the choice of it. -/
theorem Watches.chooses (h : s.Watches policy names) {now : Moment} {action : Action}
    {more : List Signal} (hstep : s.step now action = some (s', more)) :
    List.Forall₂ (Chooses policy names) (s.completed action) (choices more) := by
  cases step_moves hstep with
  | @finishCycle m backends effects _ hm =>
      obtain ⟨polls, outcomes, statuses, shown, chosen, hphase, houtcomes, happly, -, hcases⟩ :=
        Monitor.finish_cycle_cases hm
      have hm' : m.policy = policy ∧ m.statuses = statuses := by
        rcases hcases with ⟨-, rfl⟩ | ⟨-, rfl⟩ <;> exact ⟨h.policy_eq, rfl⟩
      obtain ⟨rfl, rfl⟩ := hm'
      have hbackends : s.backends.length = names.length := by rw [← h.names_eq, List.length_map]
      have hlength : outcomes.length = s.backends.length := by
        rw [← (Monitor.mapM_outcome houtcomes).1, h.polls polls hphase, hbackends]
      have hnames := apply_outcomes_names s.backends s.monitor.statuses outcomes
      rw [happly, h.names_eq] at hnames
      have hcycle : s.completed .finishCycle = [pollsByName s.backends outcomes] := by
        simp [completed, Monitor.outcomes?, hphase, houtcomes]
      rw [hcycle]
      refine .cons ⟨(pollsByName_names hlength).trans h.names_eq, ?_, fun i hi => ?_⟩ .nil
      · rw [← hnames, ← Monitor.electedName_eq]
        exact Monitor.choose_elects (h.statuses.trans hbackends.symm) hlength happly
      · have hlt := Monitor.choose_lt hi
        rwa [← hnames, List.length_map]
  | publish hm =>
      rw [sending_choices]
      exact .nil
  | _ => exact .nil

/-- In every run each completed cycle has its choice. -/
theorem Watches.run (h : s.Watches policy names) {actions : List (Moment × Action)}
    {last : Monitoring} {signals : List Signal} (hrun : s.run actions = some (last, signals)) :
    List.Forall₂ (Chooses policy names) (s.cycles actions) (choices signals) := by
  induction actions generalizing s signals with
  | nil =>
      obtain ⟨rfl, rfl⟩ := Prod.mk.inj (Option.some.inj hrun)
      exact .nil
  | cons head rest ih =>
      obtain ⟨now, action⟩ := head
      obtain ⟨⟨next, first⟩, hstep, hrest⟩ := Option.bind_eq_some_iff.mp hrun
      obtain ⟨⟨last', others⟩, hothers, heq⟩ := Option.map_eq_some_iff.mp hrest
      obtain ⟨rfl, rfl⟩ := Prod.mk.inj heq
      simp only [cycles, hstep, choices_append]
      exact List.rel_append (h.chooses hstep) (ih (h.step hstep) hothers)

/-! ## Two monitors -/

variable {other : Policy} {names' : List String} {polls polls' : List (String × PollOutcome)}
  {e e' : Elected}

/-- Cycles with the same healthy answers elect the same backend under one policy. -/
theorem Chooses.name_eq (h : Chooses policy names polls e) (h' : Chooses policy names' polls' e')
    (hanswers : (healthyAnswers polls).Perm (healthyAnswers polls')) :
    nameAt names e = nameAt names' e' :=
  (h.elects.perm hanswers).unique h'.elects

/-- What opposite policies elect by the same polls: different backends if two or more are healthy,
the same one if it is the only one, and otherwise none. -/
theorem Chooses.opposed (h : Chooses policy names polls e) (h' : Chooses other names' polls' e')
    (hne : policy ≠ other) (hnames : names.Nodup) (hpolls : polls.Perm polls') :
    (2 ≤ (healthyAnswers polls).length →
      nameAt names e ≠ nameAt names' e' ∧ nameAt names e ≠ none ∧ nameAt names' e' ≠ none) ∧
    ((healthyAnswers polls).length = 1 →
      nameAt names e = nameAt names' e' ∧ nameAt names e ≠ none) ∧
    (healthyAnswers polls = [] → nameAt names e = none ∧ nameAt names' e' = none) := by
  have hother : other.Elects (healthyAnswers polls) (nameAt names' e') :=
    h'.elects.perm (hpolls.symm.filterMap _)
  refine ⟨fun hmany => ⟨?_, fun hnone => ?_, fun hnone => ?_⟩, fun hone => ?_, fun hnil => ?_⟩
  · exact h.elects.ne_of_opposite hne hother (healthyAnswers_nodup (h.polled ▸ hnames)) hmany
  · rw [h.elects.none_iff.mp hnone] at hmany
    cases hmany
  · rw [hother.none_iff.mp hnone] at hmany
    cases hmany
  · obtain ⟨hsame, hsome⟩ := h.elects.of_single hother hone
    exact ⟨hsame, Option.isSome_iff_ne_none.mp hsome⟩
  · exact ⟨h.elects.none_iff.mpr hnil, hother.none_iff.mpr hnil⟩

/-- The names that a monitor publishes: every subscriber is sent the first of them in their order,
and all of them once the latest one has come to it, as long as it is there. -/
structure Publishes (s : Monitoring) (backends : List Backend) (signals : List Signal)
    (published : List (Option String)) : Prop where
  isPrefix : ∀ place, (sentTo place signals).map (electedName backends) <+: published
  reached : ∀ ⦃place : ℕ⦄ ⦃c : Channel Elected⦄, s.monitor.isStopped = false →
    s.monitor.subscribers[place]? = some c → c.listened = true →
    (∀ n, s.monitor.phase = .publishing n → place < n) →
    (sentTo place signals).map (electedName backends) = published

/-- Elections within a list of different names are told apart by their names. -/
theorem nameAt_inj {names : List String} (hnames : names.Nodup) {a b : Elected}
    (ha : ∀ i, a = some i → i < names.length) (hb : ∀ i, b = some i → i < names.length)
    (h : nameAt names a = nameAt names b) : a = b := by
  cases a with
  | none =>
      cases b with
      | none => rfl
      | some j =>
          have hsome := List.getElem?_eq_getElem (hb j rfl)
          cases (h.trans hsome : (none : Option String) = _)
  | some i =>
      have hi := List.getElem?_eq_getElem (ha i rfl)
      cases b with
      | none => cases (hi.symm.trans h : some _ = (none : Option String))
      | some j =>
          have hsome : names[i]? = names[j]? := h
          exact congrArg some ((List.getElem?_inj (ha i rfl) hnames).mp hsome)

/-- A monitor publishes the changes of the names that it chooses. -/
theorem Published.publishes {signals : List Signal} (h : s.Published signals)
    {backends : List Backend} (hnames : (backends.map (·.name)).Nodup)
    (hrange : ∀ e ∈ choices signals, ∀ i, e = some i → i < (backends.map (·.name)).length) :
    s.Publishes backends signals (changes ((choices signals).map (electedName backends))) := by
  have hchanges : (changes (choices signals)).map (electedName backends) =
      changes ((choices signals).map (electedName backends)) := by
    refine Monitor.map_changes rfl fun a ha b hb heq => ?_
    have hall : ∀ e ∈ none :: choices signals, ∀ i, e = some i →
        i < (backends.map (·.name)).length := by
      intro e he i hi
      rcases List.mem_cons.mp he with rfl | he
      · cases hi
      · exact hrange e he i hi
    rw [Monitor.electedName_eq, Monitor.electedName_eq] at heq
    exact nameAt_inj hnames (hall a ha) (hall b hb) heq
  constructor
  case isPrefix =>
    intro place
    rw [← hchanges]
    exact (h.isPrefix place).map _
  case reached =>
    intro place c hrunning hc hlistened hcome
    rw [← hchanges, h.sent_of_come hrunning hc hlistened hcome]

/-- A completed cycle has its choice at the same place. -/
theorem chosen_of_cycle {cycles : List (List (String × PollOutcome))} {chosen : List Elected}
    (h : List.Forall₂ (Chooses policy names) cycles chosen) {k : ℕ}
    (hpolls : cycles[k]? = some polls) :
    ∃ e, chosen[k]? = some e ∧ Chooses policy names polls e := by
  obtain ⟨hlength, hall⟩ := List.forall₂_iff_get.mp h
  obtain ⟨hk, rfl⟩ := List.getElem?_eq_some_iff.mp hpolls
  have hk' : k < chosen.length := hlength ▸ hk
  exact ⟨chosen[k], List.getElem?_eq_getElem hk', hall k hk hk'⟩

/-- Choices are made among the names. -/
theorem inRange_of_cycles {cycles : List (List (String × PollOutcome))} {chosen : List Elected}
    (h : List.Forall₂ (Chooses policy names) cycles chosen) :
    ∀ e ∈ chosen, ∀ i, e = some i → i < names.length := by
  induction h with
  | nil => exact nofun
  | cons hfirst hrest ih =>
      intro e he
      rcases List.mem_cons.mp he with rfl | he
      · exact hfirst.inRange
      · exact ih e he

/-- Cycles whose polls come to the same choose the same names under one policy. -/
theorem names_eq_of_cycles {cycles cycles' : List (List (String × PollOutcome))}
    {chosen chosen' : List Elected} (h : List.Forall₂ (Chooses policy names) cycles chosen)
    (h' : List.Forall₂ (Chooses policy names') cycles' chosen')
    (hcycles : List.Forall₂ List.Perm cycles cycles') :
    chosen.map (nameAt names) = chosen'.map (nameAt names') := by
  induction h generalizing cycles' chosen' with
  | nil =>
      cases hcycles
      cases h'
      rfl
  | cons hfirst hrest ih =>
      cases hcycles with
      | cons hpolls hcycles =>
          cases h' with
          | cons hfirst' hrest' =>
              rw [List.map_cons, List.map_cons, hfirst.name_eq hfirst' (hpolls.filterMap _),
                ih hrest' hcycles]

/-- For every two runs of monitors with distinctly named backends, whatever comes of their polls,
whatever their subscribers do, and in whatever order the backends are configured. Each completed
cycle has its choice. In cycles whose polls come to the same, opposite policies elect different
backends if two or more are healthy, the same one if it is the only one, and otherwise none. If all
cycles come to the same, monitors of one policy publish the same names. Under one policy a name is
elected by the healthy answers of its cycle alone, whatever else there is and was before. -/
theorem elections_by_name (policy policy' : Policy) (tls tls' : Bool)
    (timeout timeout' : Duration) (backends backends' : List Backend)
    (subscribers subscribers' : ℕ) (began began' : Moment)
    (actions actions' : List (Moment × Action)) {s s' : Monitoring} {signals signals' : List Signal}
    (hnames : (backends.map (·.name)).Nodup) (hnames' : (backends'.map (·.name)).Nodup)
    (hrun : (start policy tls timeout backends subscribers began).run actions = some (s, signals))
    (hrun' : (start policy' tls' timeout' backends' subscribers' began').run actions' =
      some (s', signals')) :
    let cycles := (start policy tls timeout backends subscribers began).cycles actions
    let cycles' := (start policy' tls' timeout' backends' subscribers' began').cycles actions'
    let elected := (choices signals).map (electedName backends)
    let elected' := (choices signals').map (electedName backends')
    (elected.length = cycles.length ∧ elected'.length = cycles'.length) ∧
    (policy ≠ policy' → ∀ (k k' : ℕ) polls polls', cycles[k]? = some polls →
      cycles'[k']? = some polls' → polls.Perm polls' →
      ∃ e e', elected[k]? = some e ∧ elected'[k']? = some e' ∧
        (2 ≤ (healthyAnswers polls).length → e ≠ e' ∧ e ≠ none ∧ e' ≠ none) ∧
        ((healthyAnswers polls).length = 1 → e = e' ∧ e ≠ none) ∧
        (healthyAnswers polls = [] → e = none ∧ e' = none)) ∧
    (policy = policy' → List.Forall₂ List.Perm cycles cycles' →
      elected = elected' ∧ ∃ published, s.Publishes backends signals published ∧
        s'.Publishes backends' signals' published) ∧
    (policy = policy' → ∀ (k k' : ℕ) polls polls', cycles[k]? = some polls →
      cycles'[k']? = some polls' → (healthyAnswers polls).Perm (healthyAnswers polls') →
      elected[k]? = elected'[k']?) := by
  intro cycles cycles' elected elected'
  have hchosen := (start_watches policy tls timeout backends subscribers began).run hrun
  have hchosen' := (start_watches policy' tls' timeout' backends' subscribers' began').run hrun'
  have helected : elected = (choices signals).map (nameAt (backends.map (·.name))) :=
    List.map_congr_left fun e _ => Monitor.electedName_eq backends e
  have helected' : elected' = (choices signals').map (nameAt (backends'.map (·.name))) :=
    List.map_congr_left fun e _ => Monitor.electedName_eq backends' e
  refine ⟨⟨?_, ?_⟩, ?_, ?_, ?_⟩
  · rw [List.length_map, hchosen.length_eq]
  · rw [List.length_map, hchosen'.length_eq]
  · intro hne k k' polls polls' hpolls hpolls' hperm
    obtain ⟨e, he, hchooses⟩ := chosen_of_cycle hchosen hpolls
    obtain ⟨e', he', hchooses'⟩ := chosen_of_cycle hchosen' hpolls'
    refine ⟨_, _, ?_, ?_, hchooses.opposed hchooses' hne hnames hperm⟩
    · rw [helected, List.getElem?_map, he, Option.map_some]
    · rw [helected', List.getElem?_map, he', Option.map_some]
  · rintro rfl hcycles
    have hsame : elected = elected' := by
      rw [helected, helected', names_eq_of_cycles hchosen hchosen' hcycles]
    have hpublished : s.Published signals := run_induction (fun h hstep => h.step hstep) hrun
      (start_published policy tls timeout backends subscribers began)
    have hpublished' : s'.Published signals' := run_induction (fun h hstep => h.step hstep) hrun'
      (start_published policy tls' timeout' backends' subscribers' began')
    refine ⟨hsame, changes elected, ?_, ?_⟩
    · exact hpublished.publishes hnames (inRange_of_cycles hchosen)
    · rw [hsame]
      exact hpublished'.publishes hnames' (inRange_of_cycles hchosen')
  · rintro rfl k k' polls polls' hpolls hpolls' hanswers
    obtain ⟨e, he, hchooses⟩ := chosen_of_cycle hchosen hpolls
    obtain ⟨e', he', hchooses'⟩ := chosen_of_cycle hchosen' hpolls'
    rw [helected, helected', List.getElem?_map, List.getElem?_map, he, he', Option.map_some,
      Option.map_some, hchooses.name_eq hchooses' hanswers]

/-- The answer of an agent that gives its node the index `i`. -/
def indexedReply (i : ℕ) : AgentReply :=
  ⟨200, Utf8.encode ("\x7b\"healthy\":true,\"wsrep_local_index\":" ++ toString i ++ "\x7d")⟩

/-- A node with a name. -/
def node (name : String) : Backend := .ofConfig ⟨name, "10.0.0.1", 3306, 9201, "status"⟩

/-- First the nodes at two places are healthy and have one index, then only the one at the third
place is, which has a greater index. -/
def tieThenSingle (a b c : ℕ) : List (Moment × Action) :=
  [(1000, .beginCycle), (1000, .answer a (.ok (indexedReply 0))),
   (1000, .answer b (.ok (indexedReply 0))), (1000, .crash c "panic"), (1001, .finishCycle),
   (1001, .publish), (2001, .beginCycle), (2001, .crash a "panic"), (2001, .crash b "panic"),
   (2001, .answer c (.ok (indexedReply 7))), (2002, .finishCycle)]

/-- The equal indices of the first cycle are told apart by the names, and opposite policies do so
at opposite ends; in the second cycle both elect the only healthy node. -/
theorem elections_by_name_of_tie :
    ∃ (s s' : Monitoring) (signals signals' : List Signal),
      (start .lowest false ⟨5000⟩ [node "a", node "b", node "c"] 0 0).run (tieThenSingle 0 1 2) =
        some (s, signals) ∧
      (start .highest false ⟨5000⟩ [node "c", node "a", node "b"] 0 0).run (tieThenSingle 1 2 0) =
        some (s', signals') ∧
      ((choices signals).map (electedName [node "a", node "b", node "c"]))[0]? ≠
        ((choices signals').map (electedName [node "c", node "a", node "b"]))[0]? ∧
      ((choices signals).map (electedName [node "a", node "b", node "c"]))[1]? =
        ((choices signals').map (electedName [node "c", node "a", node "b"]))[1]? := by
  have hends : ((start .lowest false ⟨5000⟩ [node "a", node "b", node "c"] 0 0).run
      (tieThenSingle 0 1 2)).isSome = true := by decide +kernel
  have hends' : ((start .highest false ⟨5000⟩ [node "c", node "a", node "b"] 0 0).run
      (tieThenSingle 1 2 0)).isSome = true := by decide +kernel
  have hcycles : (start .lowest false ⟨5000⟩ [node "a", node "b", node "c"] 0 0).cycles
      (tieThenSingle 0 1 2) =
      [[("a", .answered true 0), ("b", .answered true 0),
          ("c", .unreachable ["health poll task failed"])],
        [("a", .unreachable ["health poll task failed"]),
          ("b", .unreachable ["health poll task failed"]), ("c", .answered true 7)]] := by
    decide +kernel
  have hcycles' : (start .highest false ⟨5000⟩ [node "c", node "a", node "b"] 0 0).cycles
      (tieThenSingle 1 2 0) =
      [[("c", .unreachable ["health poll task failed"]), ("a", .answered true 0),
          ("b", .answered true 0)],
        [("c", .answered true 7), ("a", .unreachable ["health poll task failed"]),
          ("b", .unreachable ["health poll task failed"])]] := by
    decide +kernel
  obtain ⟨⟨s, signals⟩, hrun⟩ := Option.isSome_iff_exists.mp hends
  obtain ⟨⟨s', signals'⟩, hrun'⟩ := Option.isSome_iff_exists.mp hends'
  obtain ⟨-, hopposed, -, -⟩ := elections_by_name .lowest .highest false false ⟨5000⟩ ⟨5000⟩
    [node "a", node "b", node "c"] [node "c", node "a", node "b"] 0 0 0 0 (tieThenSingle 0 1 2)
    (tieThenSingle 1 2 0) (by decide) (by decide) hrun hrun'
  rw [hcycles, hcycles'] at hopposed
  obtain ⟨e, e', he, he', hmany, -, -⟩ :=
    hopposed (by decide) 0 0 _ _ rfl rfl (by decide +kernel)
  obtain ⟨d, d', hd, hd', -, hsingle, -⟩ :=
    hopposed (by decide) 1 1 _ _ rfl rfl (by decide +kernel)
  refine ⟨s, s', signals, signals', hrun, hrun', ?_, ?_⟩
  · rw [he, he']
    exact fun heq => (hmany (Nat.le_refl 2)).1 (Option.some.inj heq)
  · rw [hd, hd', (hsingle rfl).1]

end Monitoring

end GaleraProxy
