import GaleraProxy.Proofs.Backend.Motion
import GaleraProxy.Proofs.Monitor.Operations
import GaleraProxy.Proofs.Monitor.Winner

/-!
# What a monitor learns from a cycle

As long as all agents answer as they do now, a poll comes to what asking the URLs in turn comes to.
`Reflects.choose_eq` says that after a cycle with such polls the choice of a monitor is that of a
monitor that has polled for the first time, whatever it knew before.
-/

namespace GaleraProxy

/-! ## One poll -/

/-- The poll comes to what asking the URLs in turn comes to. -/
def Poll.OnTrack (replies : Replies) (urls : List String) : Poll → Prop
  | .asking url others errors =>
      (pollUrls replies errors (url :: others)).1 = (pollUrls replies [] urls).1
  | .finished outcome => outcome = (pollUrls replies [] urls).1
  | .crashed => False

/-- A poll that has not begun to ask is on track if what is left comes to the same. -/
theorem Poll.ask_on_track {replies : Replies} {urls left errors : List String}
    (h : (pollUrls replies errors left).1 = (pollUrls replies [] urls).1) :
    (Poll.ask errors left).OnTrack replies urls := by
  cases left with
  | nil => exact h
  | cons url others => exact h

/-- A poll starts on track. -/
theorem Poll.start_on_track (replies : Replies) (urls : List String) :
    (Poll.start urls).OnTrack replies urls :=
  Poll.ask_on_track rfl

/-- A poll that takes in what its URL is answered with stays on track. -/
theorem Poll.OnTrack.receive {replies : Replies} {urls : List String} {poll : Poll} {url : String}
    (h : poll.OnTrack replies urls) (hurl : poll.url? = some url) :
    (poll.receive (replies url)).OnTrack replies urls := by
  cases poll with
  | finished outcome => cases hurl
  | crashed => cases hurl
  | asking own others errors =>
      obtain rfl := Option.some.inj hurl
      simp only [Poll.OnTrack, pollUrls] at h
      cases hreply : replies own with
      | ok reply =>
          simp only [hreply] at h
          exact h
      | error e =>
          simp only [hreply] at h
          exact Poll.ask_on_track h

/-- The outcome of a poll on track. -/
theorem Poll.OnTrack.outcome {replies : Replies} {urls : List String} {poll : Poll}
    {outcome : PollOutcome} (h : poll.OnTrack replies urls)
    (houtcome : poll.outcome? = some outcome) : outcome = (pollUrls replies [] urls).1 := by
  cases poll with
  | asking own others errors => cases houtcome
  | crashed => exact h.elim
  | finished other =>
      obtain rfl := Option.some.inj houtcome
      exact h

/-! ## One status -/

/-- What is learned about a backend from its first poll. -/
def Backend.learned (replies : Replies) (tls : Bool) (b : Backend) : BackendStatus :=
  (Monitor.applyStatus b.name .unknown (pollUrls replies [] (b.statusUrls tls)).1).1

/-- After a poll the essence of a status depends on its outcome alone. -/
theorem Monitor.apply_status_essence (name : String) (s s' : BackendStatus)
    (outcome : PollOutcome) : (applyStatus name s outcome).1.essence =
      (applyStatus name s' outcome).1.essence := by
  cases outcome <;> rfl

namespace Monitor

/-! ## One cycle -/

/-- The outcomes of polls that are all over. -/
theorem mapM_outcome {polls : List Poll} {outcomes : List PollOutcome}
    (h : polls.mapM Poll.outcome? = some outcomes) :
    polls.length = outcomes.length ∧ ∀ {j : Nat} {poll : Poll} {outcome : PollOutcome},
      polls[j]? = some poll → outcomes[j]? = some outcome → poll.outcome? = some outcome := by
  induction polls generalizing outcomes with
  | nil =>
      obtain rfl := Option.some.inj h
      exact ⟨rfl, nofun⟩
  | cons poll rest ih =>
      rw [List.mapM_cons] at h
      obtain ⟨outcome, houtcome, h⟩ := Option.bind_eq_some_iff.mp h
      obtain ⟨others, hothers, h⟩ := Option.bind_eq_some_iff.mp h
      obtain rfl := Option.some.inj h
      obtain ⟨hlength, hall⟩ := ih hothers
      refine ⟨congrArg Nat.succ hlength, fun {j p o} hp ho => ?_⟩
      cases j with
      | zero =>
          obtain rfl := Option.some.inj hp
          obtain rfl := Option.some.inj ho
          exact houtcome
      | succ j => exact hall hp ho

/-- The outcomes of a cycle set the health of backends and nothing else. -/
theorem apply_outcomes_aside (backends : List Backend) (statuses : List BackendStatus)
    (outcomes : List PollOutcome) :
    Backend.Aside backends (applyOutcomes backends statuses outcomes).1 := by
  induction backends generalizing statuses outcomes with
  | nil => exact .refl []
  | cons b rest ih =>
      cases statuses with
      | nil => exact .refl _
      | cons s others =>
          cases outcomes with
          | nil => exact .refl _
          | cons outcome left =>
              exact .cons (.setHealthy _) (ih others left) rfl rfl

/-- The outcomes of a cycle leave as many backends and statuses as there were. -/
theorem apply_outcomes_length (backends : List Backend) (statuses : List BackendStatus)
    (outcomes : List PollOutcome) :
    (applyOutcomes backends statuses outcomes).1.length = backends.length ∧
      (applyOutcomes backends statuses outcomes).2.1.length = statuses.length := by
  induction backends generalizing statuses outcomes with
  | nil => exact ⟨rfl, rfl⟩
  | cons b rest ih =>
      cases statuses with
      | nil => exact ⟨rfl, rfl⟩
      | cons s others =>
          cases outcomes with
          | nil => exact ⟨rfl, rfl⟩
          | cons outcome left =>
              obtain ⟨hbackends, hstatuses⟩ := ih others left
              exact ⟨congrArg Nat.succ hbackends, congrArg Nat.succ hstatuses⟩

/-- The outcome of each poll is applied to its own backend and to the status of it. -/
theorem apply_outcomes_get {backends : List Backend} {statuses : List BackendStatus}
    {outcomes : List PollOutcome} {i : Nat} {b : Backend} {s : BackendStatus}
    {outcome : PollOutcome} (hb : backends[i]? = some b) (hs : statuses[i]? = some s)
    (houtcome : outcomes[i]? = some outcome) :
    (applyOutcomes backends statuses outcomes).1[i]? = some (applyOutcome b s outcome).1 ∧
      (applyOutcomes backends statuses outcomes).2.1[i]? =
        some (applyOutcome b s outcome).2.1 := by
  induction backends generalizing statuses outcomes i with
  | nil => cases hb
  | cons first rest ih =>
      cases statuses with
      | nil => cases hs
      | cons status others =>
          cases outcomes with
          | nil => cases houtcome
          | cons result left =>
              cases i with
              | zero =>
                  obtain rfl := Option.some.inj hb
                  obtain rfl := Option.some.inj hs
                  obtain rfl := Option.some.inj houtcome
                  exact ⟨rfl, rfl⟩
              | succ i => exact ih hb hs houtcome

/-- All polls of a cycle on its way are on track. -/
def OnTrack (m : Monitor) (replies : Replies) (configured : List Backend) : Prop :=
  ∀ polls, m.phase = .polling polls → polls.length = configured.length ∧
    ∀ ⦃j : Nat⦄ ⦃poll : Poll⦄ ⦃b : Backend⦄, polls[j]? = some poll → configured[j]? = some b →
      poll.OnTrack replies (b.statusUrls m.tls)

/-- What a monitor knows of every backend is what it would learn from the replies. -/
def Reflects (m : Monitor) (replies : Replies) (configured : List Backend) : Prop :=
  ∀ ⦃j : Nat⦄ ⦃b : Backend⦄ ⦃s : BackendStatus⦄, configured[j]? = some b →
    m.statuses[j]? = some s → s.essence = (b.learned replies m.tls).essence

variable {m m' : Monitor} {replies : Replies} {backends backends' configured : List Backend}

/-- A backend at a place was configured there. -/
theorem configured_get (hconfigured : backends.map Backend.asConfigured = configured) {j : Nat}
    {b : Backend} (hb : backends[j]? = some b) : configured[j]? = some b.asConfigured := by
  rw [← hconfigured, List.getElem?_map, hb, Option.map_some]

/-- A cycle begins on track. -/
theorem on_track_of_begin_cycle {now : Nat} (h : m.beginCycle backends now = some m')
    (hconfigured : backends.map Backend.asConfigured = configured) :
    m'.OnTrack replies configured := by
  obtain ⟨-, rfl⟩ := begin_cycle_cases h
  intro polls hphase
  obtain rfl := Phase.polling.inj hphase
  refine ⟨by rw [← hconfigured, List.length_map, List.length_map], fun j poll d hpoll hd => ?_⟩
  rw [List.getElem?_map, Option.map_eq_some_iff] at hpoll
  obtain ⟨b, hb, rfl⟩ := hpoll
  obtain rfl := Option.some.inj ((configured_get hconfigured hb).symm.trans hd)
  exact Poll.start_on_track replies (b.statusUrls m.tls)

/-- A cycle stays on track while agents answer as they do now. -/
theorem OnTrack.receive (h : m.OnTrack replies configured) {i : Nat} {url : String}
    (hurl : m.pollUrl? i = some url) : (m.receive i (replies url)).OnTrack replies configured := by
  rcases m.modify_poll_cases i (Poll.receive (replies url)) with heq | ⟨polls, hphase, heq⟩
  · rw [Monitor.receive, heq]
    exact h
  · obtain ⟨hlength, hall⟩ := h polls hphase
    rw [Monitor.receive, heq]
    intro polls' hphase'
    obtain rfl := Phase.polling.inj hphase'
    refine ⟨by rw [List.length_modify, hlength], fun j poll' b hpoll' hb => ?_⟩
    rw [List.getElem?_modify, Option.map_eq_map, Option.map_eq_some_iff] at hpoll'
    obtain ⟨poll, hpoll, rfl⟩ := hpoll'
    split
    · subst i
      simp only [pollUrl?, hphase, hpoll, Option.bind_some] at hurl
      exact (hall hpoll hb).receive hurl
    · exact hall hpoll hb

/-- No poll is off track while none is on its way. -/
theorem on_track_of_not_polling (h : ∀ polls, m.phase ≠ .polling polls) :
    m.OnTrack replies configured :=
  fun polls hphase => absurd hphase (h polls)

/-- Whether polls are on track depends on them and on the scheme of their URLs. -/
theorem OnTrack.of_same (h : m.OnTrack replies configured) (hphase : m'.phase = m.phase)
    (htls : m'.tls = m.tls) : m'.OnTrack replies configured := by
  intro polls hpolling
  rw [htls]
  exact h polls (hphase ▸ hpolling)

/-- What a monitor knows changes with the statuses only. -/
theorem Reflects.of_same (h : m.Reflects replies configured) (hstatuses : m'.statuses = m.statuses)
    (htls : m'.tls = m.tls) : m'.Reflects replies configured := by
  intro j b s hb hs
  rw [htls]
  exact h hb (hstatuses ▸ hs)

/-- A cycle on track tells what the agents answer now. -/
theorem OnTrack.finish_cycle (h : m.OnTrack replies configured) {now : Nat} {effects : List Effect}
    (hfinish : m.finishCycle backends now = some (m', backends', effects))
    (hconfigured : backends.map Backend.asConfigured = configured)
    (hstatuses : m.statuses.length = configured.length) : m'.Reflects replies configured := by
  obtain ⟨polls, outcomes, statuses, shown, chosen, hphase, houtcomes, happly, -, hcases⟩ :=
    finish_cycle_cases hfinish
  have htls : m'.tls = m.tls ∧ m'.statuses = statuses := by
    rcases hcases with ⟨-, rfl⟩ | ⟨-, rfl⟩ <;> exact ⟨rfl, rfl⟩
  obtain ⟨hpolls, hall⟩ := h polls hphase
  obtain ⟨hoverall, hover⟩ := mapM_outcome houtcomes
  intro j d s' hd hs'
  rw [htls.2] at hs'
  rw [htls.1]
  have hlt : j < configured.length := (List.getElem?_eq_some_iff.mp hd).1
  obtain ⟨b, hb, rfl⟩ : ∃ b, backends[j]? = some b ∧ b.asConfigured = d := by
    rwa [← hconfigured, List.getElem?_map, Option.map_eq_some_iff] at hd
  have hpoll := List.getElem?_eq_getElem (hpolls.symm ▸ hlt)
  have houtcome := List.getElem?_eq_getElem (hoverall ▸ hpolls.symm ▸ hlt)
  have hs := List.getElem?_eq_getElem (hstatuses.symm ▸ hlt)
  have hlearned := (apply_outcomes_get hb hs houtcome).2
  rw [happly] at hlearned
  obtain rfl := Option.some.inj (hs'.symm.trans hlearned)
  -- what was known before does not matter
  rw [(hall hpoll hd).outcome (hover hpoll houtcome)]
  exact apply_status_essence b.name _ .unknown _

/-! ## The choice -/

/-- The backend that a monitor chooses after its first cycle, if all agents answer with the given
replies. -/
def electedBy (replies : Replies) (policy : Policy) (tls : Bool) (backends : List Backend) :
    Elected :=
  (elect policy
    (candidatesFrom 0 backends (backends.map (Backend.learned replies tls)))).map (·.position)

theorem candidates_essence (i : Nat) (backends : List Backend)
    {statuses statuses' : List BackendStatus}
    (h : statuses.map BackendStatus.essence = statuses'.map BackendStatus.essence) :
    (candidatesFrom i backends statuses).map Candidate.essence =
      (candidatesFrom i backends statuses').map Candidate.essence := by
  induction backends generalizing i statuses statuses' with
  | nil => rfl
  | cons b rest ih =>
      cases statuses with
      | nil =>
          cases statuses' with
          | nil => rfl
          | cons s' others' => cases h
      | cons s others =>
          cases statuses' with
          | nil => cases h
          | cons s' others' =>
              rw [List.map_cons, List.map_cons] at h
              obtain ⟨hs, hothers⟩ := List.cons.inj h
              show Candidate.essence ⟨i, b.name, s⟩ :: _ = Candidate.essence ⟨i, b.name, s'⟩ :: _
              rw [ih (i + 1) hothers, Candidate.essence, Candidate.essence, hs]

theorem candidates_as_configured (i : Nat) (backends : List Backend)
    (statuses : List BackendStatus) :
    candidatesFrom i (backends.map Backend.asConfigured) statuses =
      candidatesFrom i backends statuses := by
  induction backends generalizing i statuses with
  | nil => rfl
  | cons b rest ih =>
      cases statuses with
      | nil => rfl
      | cons s others => exact congrArg (List.cons _) (ih (i + 1) others)

/-- A choice depends on what is configured of the backends. -/
theorem choose_as_configured (m : Monitor)
    (hconfigured : backends.map Backend.asConfigured = configured) :
    m.choose backends = m.choose configured := by
  rw [← hconfigured, choose, choose, candidates_as_configured]

/-- A monitor that knows what the agents answer now chooses as it would after its first cycle. -/
theorem Reflects.choose_eq (h : m.Reflects replies configured)
    (hstatuses : m.statuses.length = configured.length) :
    m.choose configured = electedBy replies m.policy m.tls configured := by
  refine elect_congr m.policy (candidates_essence 0 configured ?_)
  apply List.ext_getElem?
  intro j
  rw [List.getElem?_map, List.getElem?_map, List.getElem?_map]
  by_cases hlt : j < configured.length
  · have hb := List.getElem?_eq_getElem hlt
    have hs := List.getElem?_eq_getElem (hstatuses.symm ▸ hlt)
    rw [hb, hs, Option.map_some, Option.map_some, Option.map_some, h hb hs]
  · rw [List.getElem?_eq_none (by omega), List.getElem?_eq_none (by omega)]
    rfl

/-- What a monitor of some backends keeps: its policy, a status of each of them, and the backend that
it chooses. -/
structure Remembers (m : Monitor) (policy : Policy) (tls : Bool) (configured : List Backend) :
    Prop where
  policy_eq : m.policy = policy
  tls_eq : m.tls = tls
  statuses : m.statuses.length = configured.length
  chosen : m.active = m.choose configured

variable {policy : Policy} {tls : Bool}

/-- A monitor that starts has chosen nobody. -/
theorem create_remembers (policy : Policy) (tls : Bool) (timeout : Duration)
    (configured : List Backend) (subscribers now : Nat) :
    (create policy tls timeout configured.length subscribers now).Remembers policy tls
      configured where
  policy_eq := rfl
  tls_eq := rfl
  statuses := List.length_replicate
  chosen := by
    simp only [choose, elect, create, candidates_of_unknown]
    rfl

/-- Only the end of a cycle changes what a monitor chooses. -/
theorem Remembers.of_same (h : m.Remembers policy tls configured) (hpolicy : m'.policy = m.policy)
    (htls : m'.tls = m.tls) (hstatuses : m'.statuses = m.statuses)
    (hactive : m'.active = m.active) : m'.Remembers policy tls configured where
  policy_eq := hpolicy.trans h.policy_eq
  tls_eq := htls.trans h.tls_eq
  statuses := by rw [hstatuses, h.statuses]
  chosen := by
    rw [hactive, h.chosen, choose, choose, hpolicy, hstatuses]

theorem Remembers.begin_cycle (h : m.Remembers policy tls configured) {now : Nat}
    (hstep : m.beginCycle backends now = some m') : m'.Remembers policy tls configured := by
  obtain ⟨-, rfl⟩ := begin_cycle_cases hstep
  exact h.of_same rfl rfl rfl rfl

theorem Remembers.modify_poll (h : m.Remembers policy tls configured) (i : Nat) (f : Poll → Poll) :
    (m.modifyPoll i f).Remembers policy tls configured := by
  rcases m.modify_poll_cases i f with heq | ⟨polls, -, heq⟩
  · rwa [heq]
  · rw [heq]
    exact h.of_same rfl rfl rfl rfl

theorem Remembers.publish (h : m.Remembers policy tls configured) {now : Nat}
    (hstep : m.stepPublish now = some m') : m'.Remembers policy tls configured := by
  obtain ⟨n, -, ⟨-, rfl⟩ | ⟨c, -, ⟨-, rfl⟩ | ⟨-, -, rfl⟩⟩⟩ := step_publish_cases hstep
  · exact h.of_same rfl rfl rfl rfl
  · exact h.of_same rfl rfl rfl rfl
  · exact h.of_same rfl rfl rfl rfl

theorem Remembers.take (h : m.Remembers policy tls configured) {place : Nat} {e : Elected}
    (hstep : m.takeElection place = some (e, m')) : m'.Remembers policy tls configured := by
  obtain ⟨c, -, -, rfl⟩ := take_election_cases hstep
  exact h.of_same rfl rfl rfl rfl

/-- A monitor whose cycle ends remembers its choice. -/
theorem Remembers.finish_cycle (h : m.Remembers policy tls configured) {now : Nat}
    {effects : List Effect}
    (hstep : m.finishCycle backends now = some (m', backends', effects))
    (hconfigured : backends.map Backend.asConfigured = configured) :
    m'.Remembers policy tls configured := by
  obtain ⟨polls, outcomes, statuses, shown, chosen, -, -, happly, hchosen, hcases⟩ :=
    finish_cycle_cases hstep
  have haside := apply_outcomes_aside backends m.statuses outcomes
  obtain ⟨-, hlength⟩ := apply_outcomes_length backends m.statuses outcomes
  rw [happly] at haside hlength
  have hconfigured' : backends'.map Backend.asConfigured = configured :=
    haside.onward.as_configured.trans hconfigured
  rw [choose_as_configured m' hconfigured'] at hchosen
  rcases hcases with ⟨rfl, rfl⟩ | ⟨-, rfl⟩
  · exact ⟨h.policy_eq, h.tls_eq, hlength.trans h.statuses, hchosen.symm⟩
  · exact ⟨h.policy_eq, h.tls_eq, hlength.trans h.statuses, hchosen.symm⟩

end Monitor

/-!
## Monitors and the backends that they watch

What a monitor does with the answers of agents depends on nothing of the backends but on how they
are configured, and it changes nothing of them but their health.
-/

/-- A backend apart from its health. -/
def Backend.withoutHealth (b : Backend) : Backend := { b with healthy := false }

namespace Monitor

variable {m m' : Monitor} {backends backends' : List Backend} {now : Nat}

/-- A cycle begins with the same polls wherever the backends are configured alike. -/
theorem begin_cycle_congr
    (h : backends'.map Backend.asConfigured = backends.map Backend.asConfigured) :
    m.beginCycle backends' now = m.beginCycle backends now := by
  have hpolls : ∀ l : List Backend, l.map (fun b => Poll.start (b.statusUrls m.tls)) =
      (l.map Backend.asConfigured).map fun b => Poll.start (b.statusUrls m.tls) := by
    intro l
    rw [List.map_map]
    rfl
  simp only [beginCycle, hpolls backends', hpolls backends, h]

/-- The outcomes of a cycle change what is known of backends that are configured alike in the same
way. -/
theorem apply_outcomes_congr
    (h : backends'.map Backend.asConfigured = backends.map Backend.asConfigured)
    (statuses : List BackendStatus) (outcomes : List PollOutcome) :
    (applyOutcomes backends' statuses outcomes).2.1 =
      (applyOutcomes backends statuses outcomes).2.1 := by
  induction backends generalizing backends' statuses outcomes with
  | nil =>
      obtain rfl := List.map_eq_nil_iff.mp h
      rfl
  | cons b rest ih =>
      obtain ⟨b', rest', rfl, hb, hrest⟩ := List.map_eq_cons_iff.mp h
      have hname : b'.name = b.name := by
        show b'.asConfigured.name = b.asConfigured.name
        rw [hb]
      cases statuses with
      | nil => rfl
      | cons s others =>
          cases outcomes with
          | nil => rfl
          | cons outcome left =>
              simp only [applyOutcomes, applyOutcome, hname, ih hrest]

/-- A cycle ends with the same choice wherever the backends are configured alike. -/
theorem finish_cycle_congr
    (h : backends'.map Backend.asConfigured = backends.map Backend.asConfigured)
    {after : List Backend} {effects : List Effect}
    (hfinish : m.finishCycle backends now = some (m', after, effects)) :
    ∃ after' effects', m.finishCycle backends' now = some (m', after', effects') := by
  obtain ⟨outcomes, houtcomes, hrest⟩ := Option.bind_eq_some_iff.mp hfinish
  have hconfigured : ∀ l : List Backend,
      (applyOutcomes l m.statuses outcomes).1.map Backend.asConfigured =
        l.map Backend.asConfigured :=
    fun l => (apply_outcomes_aside l m.statuses outcomes).onward.as_configured
  have hafter := (hconfigured backends').trans (h.trans (hconfigured backends).symm)
  have hchoose : ∀ n : Monitor, n.choose (applyOutcomes backends' m.statuses outcomes).1 =
      n.choose (applyOutcomes backends m.statuses outcomes).1 :=
    fun n => (n.choose_as_configured hafter).trans (n.choose_as_configured rfl).symm
  simp only at hrest
  simp only [finishCycle, houtcomes, Option.bind_eq_bind, Option.bind_some,
    apply_outcomes_congr h, hchoose]
  split at hrest
  · rename_i hsame
    obtain ⟨rfl, -⟩ := Prod.mk.inj (Option.some.inj hrest)
    rw [if_pos hsame]
    exact ⟨_, _, rfl⟩
  · rename_i hnews
    obtain ⟨rfl, -⟩ := Prod.mk.inj (Option.some.inj hrest)
    rw [if_neg hnews]
    exact ⟨_, _, rfl⟩

/-- The outcomes of a cycle change the health of backends and nothing else. -/
theorem apply_outcomes_without_health (backends : List Backend)
    (statuses : List BackendStatus) (outcomes : List PollOutcome) :
    (applyOutcomes backends statuses outcomes).1.map Backend.withoutHealth =
      backends.map Backend.withoutHealth := by
  induction backends generalizing statuses outcomes with
  | nil => rfl
  | cons b rest ih =>
      cases statuses with
      | nil => rfl
      | cons s others =>
          cases outcomes with
          | nil => rfl
          | cons outcome left =>
              simp only [applyOutcomes, List.map_cons, ih others left]
              rfl

/-- The end of a cycle changes the health of backends and nothing else. -/
theorem finish_cycle_without_health {m m' : Monitor} {backends backends' : List Backend}
    {now : Nat} {effects : List Effect}
    (h : m.finishCycle backends now = some (m', backends', effects)) :
    backends'.map Backend.withoutHealth = backends.map Backend.withoutHealth := by
  obtain ⟨polls, outcomes, statuses, shown, chosen, -, -, happly, -, -⟩ := finish_cycle_cases h
  rw [← apply_outcomes_without_health backends m.statuses outcomes, happly]

end Monitor

end GaleraProxy
