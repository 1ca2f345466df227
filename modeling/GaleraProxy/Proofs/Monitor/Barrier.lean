import GaleraProxy.Proofs.Monitor.Polling
import GaleraProxy.Proofs.Monitor.Publication

/-!
# A cycle is a barrier

The polls of a cycle go on side by side, and they may be over in any order. `cycle_is_barrier` says
that none of them changes anything before the last one is over, that then every backend gets the
result of its own poll, and that a cycle that is cut short changes nothing at all.
-/

namespace GaleraProxy

/-! ## The poll of one backend -/

namespace Monitoring.Action

/-- Whether an action is about the poll of the backend at a place. -/
def concerns (place : Nat) : Monitoring.Action → Bool
  | answer i _ | crash i _ => i == place
  | beginCycle | finishCycle | publish | take _ | leave _ | stop => false

/-- Whether an action ends a cycle. -/
def endsCycle : Monitoring.Action → Bool
  | finishCycle | stop => true
  | beginCycle | answer .. | crash .. | publish | take _ | leave _ => false

end Monitoring.Action

/-- What an action makes of the poll of the backend at a place. -/
def Poll.after (place : Nat) (poll : Poll) : Monitoring.Action → Poll
  | .answer i result => if i = place then poll.receive result else poll
  | .crash i _ => if i = place then .crashed else poll
  | .beginCycle | .finishCycle | .publish | .take _ | .leave _ | .stop => poll

/-- What is about others changes nothing. -/
theorem Poll.after_of_not_concerns {place : Nat} {poll : Poll} {action : Monitoring.Action}
    (h : action.concerns place = false) : poll.after place action = poll := by
  cases action with
  | answer i result => exact if_neg (by simpa [Monitoring.Action.concerns] using h)
  | crash i error => exact if_neg (by simpa [Monitoring.Action.concerns] using h)
  | beginCycle | finishCycle | publish | take _ | leave _ | stop => rfl

/-- A poll depends on what is about it alone. -/
theorem Poll.foldl_after_filter (place : Nat) (poll : Poll) (actions : List Monitoring.Action) :
    (actions.filter (·.concerns place)).foldl (Poll.after place) poll =
      actions.foldl (Poll.after place) poll := by
  induction actions generalizing poll with
  | nil => rfl
  | cons action rest ih =>
      cases hconcerns : action.concerns place with
      | false =>
          rw [List.filter_cons_of_neg (by simp [hconcerns]), List.foldl_cons,
            Poll.after_of_not_concerns hconcerns, ih]
      | true =>
          rw [List.filter_cons_of_pos (by simp [hconcerns]), List.foldl_cons, List.foldl_cons, ih]

/-- A poll that has crashed stays so. -/
theorem Poll.foldl_after_crashed (place : Nat) (actions : List Monitoring.Action) :
    actions.foldl (Poll.after place) .crashed = .crashed := by
  induction actions with
  | nil => rfl
  | cons action rest ih =>
      have hstays : Poll.after place .crashed action = .crashed := by
        cases action with
        | answer i result => exact ite_self _
        | crash i error => exact ite_self _
        | beginCycle | finishCycle | publish | take _ | leave _ | stop => rfl
      rw [List.foldl_cons, hstays, ih]

/-- A poll that crashes at some moment has crashed in the end. -/
theorem Poll.foldl_after_of_crash {place : Nat} {error : String} {actions : List Monitoring.Action}
    (h : .crash place error ∈ actions) (poll : Poll) :
    actions.foldl (Poll.after place) poll = .crashed := by
  obtain ⟨before, later, rfl⟩ := List.append_of_mem h
  rw [List.foldl_append, List.foldl_cons, Poll.after, if_pos rfl, Poll.foldl_after_crashed]

namespace Monitoring

/-- The poll of a backend at a place after the actions of a cycle. -/
def pollOf (s : Monitoring) (actions : List Action) (place : Nat) (b : Backend) : Poll :=
  actions.foldl (Poll.after place) (.start (b.statusUrls s.monitor.tls))

/-! ## While polls are on their way -/

/-- Nothing was chosen, and no subscriber was sent anything. -/
def Quiet (signals : List Signal) : Prop :=
  choices signals = [] ∧ ∀ place, sentTo place signals = []

theorem quiet_nil : Quiet [] := ⟨rfl, fun _ => rfl⟩

theorem Quiet.append {first others : List Signal} (h : Quiet first) (h' : Quiet others) :
    Quiet (first ++ others) := by
  refine ⟨?_, fun place => ?_⟩
  · rw [choices_append, h.1, h'.1]
    rfl
  · rw [sent_to_append, h.2, h'.2]
    rfl

theorem quiet_taken (place : Nat) (e : Elected) : Quiet [.taken place e] := ⟨rfl, fun _ => rfl⟩

/-- A cycle that began where the first state was is on its way in the second one: all that has
changed are the polls, each by what was about it, and what waits for subscribers. -/
def Underway (s : Monitoring) (actions : List Action) (s' : Monitoring) : Prop :=
  ∃ subscribers, s' =
    { monitor := { s.monitor with
        phase := .polling (s.backends.mapIdx fun i b => s.pollOf actions i b), subscribers }
      backends := s.backends }

variable {s s' s'' : Monitoring} {actions : List Action} {signals more : List Signal}

/-- A cycle begins. -/
theorem underway_of_begin_cycle {now : Moment}
    (hstep : s.step now .beginCycle = some (s', more)) : s.Underway [] s' ∧ more = [] := by
  obtain ⟨m, hm, heq⟩ := Option.map_eq_some_iff.mp hstep
  obtain ⟨rfl, rfl⟩ := Prod.mk.inj heq
  obtain ⟨-, rfl⟩ := Monitor.begin_cycle_cases hm
  refine ⟨⟨s.monitor.subscribers, ?_⟩, rfl⟩
  have hpolls : (s.backends.mapIdx fun i b => s.pollOf [] i b) =
      s.backends.map fun b => .start (b.statusUrls s.monitor.tls) :=
    List.ext_getElem? fun i => by rw [List.getElem?_mapIdx, List.getElem?_map]; rfl
  rw [hpolls]

theorem pollOf_concat (s : Monitoring) (actions : List Action) (action : Action) (place : Nat)
    (b : Backend) :
    s.pollOf (actions ++ [action]) place b = (s.pollOf actions place b).after place action :=
  List.foldl_concat ..

/-- What is about one poll changes this one. -/
theorem Underway.modify (h : s.Underway actions s') {action : Action} {i : Nat} {f : Poll → Poll}
    (haction : ∀ place poll, Poll.after place poll action = if i = place then f poll else poll) :
    s.Underway (actions ++ [action]) { s' with monitor := s'.monitor.modifyPoll i f } := by
  obtain ⟨subscribers, rfl⟩ := h
  have hpolls : (s.backends.mapIdx fun j b => s.pollOf (actions ++ [action]) j b) =
      (s.backends.mapIdx fun j b => s.pollOf actions j b).modify i f := by
    apply List.ext_getElem?
    intro j
    rw [List.getElem?_modify, List.getElem?_mapIdx, List.getElem?_mapIdx]
    cases s.backends[j]? with
    | none => rfl
    | some b =>
        simp only [Option.map_some, pollOf_concat, haction]
        rfl
  refine ⟨subscribers, ?_⟩
  rw [hpolls]
  rfl

/-- What is about no poll changes none. -/
theorem Underway.of_others (h : s.Underway actions s') {action : Action}
    (haction : ∀ place, action.concerns place = false) (subscribers : List (Channel Elected)) :
    s.Underway (actions ++ [action]) { s' with monitor := { s'.monitor with subscribers } } := by
  obtain ⟨-, rfl⟩ := h
  refine ⟨subscribers, ?_⟩
  simp only [pollOf_concat, Poll.after_of_not_concerns (haction _)]

/-- A cycle is on its way as long as nothing ends it, and nothing is chosen or sent. -/
theorem Underway.step (h : s.Underway actions s') {now : Moment} {action : Action}
    (haction : action.endsCycle = false) (hstep : s'.step now action = some (s'', more)) :
    s.Underway (actions ++ [action]) s'' ∧ Quiet more := by
  cases step_moves hstep with
  | beginCycle hm =>
      obtain ⟨subscribers, rfl⟩ := h
      obtain ⟨⟨due, hphase⟩, -⟩ := Monitor.begin_cycle_cases hm
      cases hphase
  | answer i result => exact ⟨h.modify fun place poll => rfl, quiet_nil⟩
  | crash i error => exact ⟨h.modify fun place poll => rfl, quiet_nil⟩
  | finishCycle hm => cases haction
  | publish hm =>
      obtain ⟨subscribers, rfl⟩ := h
      obtain ⟨n, hphase, -⟩ := Monitor.step_publish_cases hm
      cases hphase
  | take place hm =>
      obtain ⟨c, -, -, rfl⟩ := Monitor.take_election_cases hm
      exact ⟨h.of_others (fun _ => rfl) _, quiet_taken place _⟩
  | leave place => exact ⟨h.of_others (fun _ => rfl) _, quiet_nil⟩
  | stop hrunning => cases haction

/-- A cycle stays on its way through all that does not end it. -/
theorem Underway.run (h : s.Underway actions s') {timed : List (Moment × Action)}
    (hwithin : ∀ a ∈ timed, a.2.endsCycle = false) (hrun : s'.run timed = some (s'', signals)) :
    s.Underway (actions ++ timed.map (·.2)) s'' ∧ Quiet signals := by
  induction timed generalizing actions s' signals with
  | nil =>
      obtain ⟨rfl, rfl⟩ := Prod.mk.inj (Option.some.inj hrun)
      rw [List.map_nil, List.append_nil]
      exact ⟨h, quiet_nil⟩
  | cons first rest ih =>
      rw [run_eq_run_steps, run_steps_cons] at hrun
      obtain ⟨next, shown, others, hnext, hrest, rfl⟩ := hrun
      rw [← run_eq_run_steps] at hrest
      obtain ⟨hunderway, hquiet⟩ := h.step (hwithin first List.mem_cons_self) hnext
      obtain ⟨hlast, hquiet'⟩ :=
        ih hunderway (fun a ha => hwithin a (List.mem_cons_of_mem first ha)) hrest
      rw [List.append_assoc] at hlast
      exact ⟨hlast, hquiet.append hquiet'⟩

/-! ## A cycle that is cut short -/

/-- A monitor has stopped, and nothing has changed since an earlier state but what waits for
subscribers. -/
def Halted (s s' : Monitoring) : Prop :=
  ∃ subscribers, s' =
    { monitor := { s.monitor with phase := .stopped, subscribers }, backends := s.backends }

/-- A cycle on its way may be cut short. -/
theorem Underway.stop (h : s.Underway actions s') (now : Moment) :
    ∃ t, s'.step now .stop = some (t, []) ∧ s.Halted t := by
  obtain ⟨subscribers, rfl⟩ := h
  exact ⟨_, rfl, subscribers.map Channel.finish, rfl⟩

/-- A monitor that has stopped does nothing any more. -/
theorem Halted.step (h : s.Halted s') {now : Moment} {action : Action}
    (hstep : s'.step now action = some (s'', more)) : s.Halted s'' ∧ Quiet more := by
  obtain ⟨subscribers, rfl⟩ := h
  cases step_moves hstep with
  | beginCycle hm =>
      obtain ⟨⟨due, hphase⟩, -⟩ := Monitor.begin_cycle_cases hm
      cases hphase
  | answer i result => exact ⟨⟨subscribers, rfl⟩, quiet_nil⟩
  | crash i error => exact ⟨⟨subscribers, rfl⟩, quiet_nil⟩
  | finishCycle hm =>
      obtain ⟨polls, outcomes, statuses, shown, chosen, hphase, -⟩ := Monitor.finish_cycle_cases hm
      cases hphase
  | publish hm =>
      obtain ⟨n, hphase, -⟩ := Monitor.step_publish_cases hm
      cases hphase
  | take place hm =>
      obtain ⟨c, -, -, rfl⟩ := Monitor.take_election_cases hm
      exact ⟨⟨_, rfl⟩, quiet_taken place _⟩
  | leave place => exact ⟨⟨_, rfl⟩, quiet_nil⟩
  | stop hrunning => cases hrunning

theorem Halted.run (h : s.Halted s') {later : List (Moment × Action)}
    (hrun : s'.run later = some (s'', signals)) : s.Halted s'' ∧ Quiet signals := by
  refine run_induction (P := fun t shown => s.Halted t ∧ Quiet shown) ?_ hrun ⟨h, quiet_nil⟩
  rintro t t' seen shown now action ⟨hhalted, hquiet⟩ hstep
  obtain ⟨hhalted', hquiet'⟩ := hhalted.step hstep
  exact ⟨hhalted', hquiet.append hquiet'⟩

end Monitoring

/-! ## The end of a cycle -/

namespace Monitor

/-- A cycle has outcomes once every poll is over. -/
theorem mapM_outcome_isSome_iff {polls : List Poll} :
    (polls.mapM Poll.outcome?).isSome ↔ ∀ poll ∈ polls, poll.outcome?.isSome := by
  induction polls with
  | nil => simp
  | cons poll rest ih =>
      rw [List.mapM_cons, List.forall_mem_cons, ← ih]
      cases poll.outcome? with
      | none => simp
      | some outcome => cases rest.mapM Poll.outcome? <;> simp

/-- What is logged of the outcomes of a cycle stands in the order of the backends. -/
theorem apply_outcomes_effects (backends : List Backend) (statuses : List BackendStatus)
    (outcomes : List PollOutcome) :
    (applyOutcomes backends statuses outcomes).2.2 =
      (backends.zip (statuses.zip outcomes)).flatMap fun (b, s, outcome) =>
        (applyOutcome b s outcome).2.2 := by
  induction backends generalizing statuses outcomes with
  | nil => rfl
  | cons b rest ih =>
      cases statuses with
      | nil => rfl
      | cons s others =>
          cases outcomes with
          | nil => rfl
          | cons outcome left =>
              simp only [applyOutcomes, ih, List.zip_cons_cons, List.flatMap_cons]

/-- What is to be seen of the end of a cycle: the statuses, the active backend, the backends, and
what was logged. -/
def concluded (ending : Option (Monitor × List Backend × List Effect)) :
    Option (List BackendStatus × Elected × List Backend × List Effect) :=
  ending.map fun (m, backends, effects) => (m.statuses, m.active, backends, effects)

/-- The end of a cycle applies the outcomes and elects by what is known then. -/
theorem concluded_finishCycle (m : Monitor) (backends : List Backend) (now : Nat) :
    concluded (m.finishCycle backends now) = m.outcomes?.map fun outcomes =>
      let (backends, statuses, effects) := applyOutcomes backends m.statuses outcomes
      let chosen := choose { m with statuses } backends
      (statuses, chosen, backends, effects ++
        if chosen = m.active then []
        else [.log (.activeChanged (electedName backends m.active)
          (electedName backends chosen))]) := by
  cases houtcomes : m.outcomes? with
  | none => simp [finishCycle, houtcomes, concluded]
  | some outcomes =>
      simp only [finishCycle, houtcomes, concluded, Option.bind_eq_bind, Option.bind_some,
        Option.map_some]
      split
      · rename_i hsame
        simp [hsame]
      · simp

end Monitor

namespace Monitoring

variable {s s' s'' : Monitoring} {actions : List Action} {signals more : List Signal}

/-- The result of the poll of a backend at a place by the actions of a cycle, if it is over. -/
def resultOf (s : Monitoring) (actions : List Action) (place : Nat) (b : Backend) :
    Option PollOutcome :=
  (s.pollOf actions place b).outcome?

/-- What a cycle leads to: every backend and its status get the result of their own poll, what is
logged of it stands in the order of the backends, and the backend that is elected is the one that
the new statuses choose. -/
structure Concludes (s : Monitoring) (actions : List Action) (outcomes : List PollOutcome)
    (m : Monitor) (backends : List Backend) (effects : List Effect) : Prop where
  length_eq : outcomes.length = s.backends.length
  results : ∀ ⦃i : Nat⦄ ⦃b : Backend⦄, s.backends[i]? = some b →
    outcomes[i]? = s.resultOf actions i b
  applied : ∀ ⦃i : Nat⦄ ⦃b : Backend⦄ ⦃st : BackendStatus⦄ ⦃o : PollOutcome⦄,
    s.backends[i]? = some b → s.monitor.statuses[i]? = some st → outcomes[i]? = some o →
    backends[i]? = some (Monitor.applyOutcome b st o).1 ∧
      m.statuses[i]? = some (Monitor.applyOutcome b st o).2.1
  backends_length : backends.length = s.backends.length
  statuses_length : m.statuses.length = s.monitor.statuses.length
  elected : m.active = m.choose backends
  logged : effects =
    ((s.backends.zip (s.monitor.statuses.zip outcomes)).flatMap fun (b, st, o) =>
      (Monitor.applyOutcome b st o).2.2) ++
    if m.active = s.monitor.active then []
    else [.log (.activeChanged (Monitor.electedName backends s.monitor.active)
      (Monitor.electedName backends m.active))]

/-- A poll comes to what was about it alone. -/
theorem pollOf_congr {actions' : List Action} {place : Nat}
    (h : actions'.filter (·.concerns place) = actions.filter (·.concerns place)) (b : Backend) :
    s.pollOf actions' place b = s.pollOf actions place b := by
  rw [pollOf, ← Poll.foldl_after_filter, h, Poll.foldl_after_filter]
  rfl

/-- A crash counts as no answer. -/
theorem resultOf_of_crash {place : Nat} {error : String} (h : .crash place error ∈ actions)
    (b : Backend) :
    s.resultOf actions place b = some (.unreachable ["health poll task failed"]) := by
  rw [resultOf, pollOf, Poll.foldl_after_of_crash h]
  rfl

/-- The outcomes of a cycle on its way, once every poll is over. -/
theorem Underway.outcomes_eq (h : s.Underway actions s') :
    s'.monitor.outcomes? =
      (s.backends.mapIdx fun i b => s.pollOf actions i b).mapM Poll.outcome? := by
  obtain ⟨subscribers, rfl⟩ := h
  rfl

/-- A cycle can end exactly if every poll is over. -/
theorem Underway.finish_isSome_iff (h : s.Underway actions s') (now : Moment) :
    (s'.monitor.finishCycle s'.backends now).isSome ↔
      ∀ i b, s.backends[i]? = some b → (s.resultOf actions i b).isSome := by
  have hconcluded := congrArg Option.isSome
    (Monitor.concluded_finishCycle s'.monitor s'.backends now)
  rw [Monitor.concluded, Option.isSome_map, Option.isSome_map, h.outcomes_eq] at hconcluded
  rw [hconcluded, Monitor.mapM_outcome_isSome_iff]
  constructor
  · intro hall i b hb
    refine hall _ (List.mem_of_getElem? (i := i) ?_)
    rw [List.getElem?_mapIdx, hb, Option.map_some]
  · intro hall poll hpoll
    obtain ⟨i, hi⟩ := List.mem_iff_getElem?.mp hpoll
    rw [List.getElem?_mapIdx] at hi
    obtain ⟨b, hb, rfl⟩ := Option.map_eq_some_iff.mp hi
    exact hall i b hb

/-- The end of a cycle gives every backend the result of its own poll. -/
theorem Underway.concludes (h : s.Underway actions s') {now : Moment} {m : Monitor}
    {backends : List Backend} {effects : List Effect}
    (hfinish : s'.monitor.finishCycle s'.backends now = some (m, backends, effects)) :
    ∃ outcomes, s.Concludes actions outcomes m backends effects := by
  have hconcluded := Monitor.concluded_finishCycle s'.monitor s'.backends now
  rw [hfinish, h.outcomes_eq] at hconcluded
  obtain ⟨outcomes, houtcomes, heq⟩ := Option.map_eq_some_iff.mp hconcluded.symm
  obtain ⟨hlength, hover⟩ := Monitor.mapM_outcome houtcomes
  rw [List.length_mapIdx] at hlength
  have helected : m.active = m.choose backends := by
    obtain ⟨polls, results, statuses, shown, chosen, -, -, -, hchosen, ⟨hsame, rfl⟩ | ⟨-, rfl⟩⟩ :=
      Monitor.finish_cycle_cases hfinish
    · exact hsame.symm.trans hchosen.symm
    · exact hchosen.symm
  obtain ⟨subscribers, rfl⟩ := h
  have hlogged := Monitor.apply_outcomes_effects s.backends s.monitor.statuses outcomes
  obtain ⟨hbackends, hstatuses⟩ :=
    Monitor.apply_outcomes_length s.backends s.monitor.statuses outcomes
  simp only [Prod.mk.injEq] at heq
  obtain ⟨hm, hactive, rfl, rfl⟩ := heq
  refine ⟨outcomes, hlength.symm, fun i b hb => ?_, fun i b st o hb hst ho => ?_, hbackends, ?_,
    helected, ?_⟩
  · have hlt : i < outcomes.length := hlength ▸ (List.getElem?_eq_some_iff.mp hb).1
    have hpoll : (s.backends.mapIdx fun i b => s.pollOf actions i b)[i]? =
        some (s.pollOf actions i b) := by rw [List.getElem?_mapIdx, hb, Option.map_some]
    have ho := List.getElem?_eq_getElem hlt
    rw [resultOf, hover hpoll ho, ho]
  · rw [← hm]
    exact Monitor.apply_outcomes_get hb hst ho
  · rw [← hm]
    exact hstatuses
  · rw [← hactive, ← hlogged]

/-- For every cycle of a monitor, as far as it has come. Whatever the polls have come to, nothing is
known, elected or published that was not before. The cycle can end exactly if every poll is over,
and then every backend gets the result of its own poll, where a crash counts as no answer. The order
in which the polls go on does not matter: if the same things happen to each of them in another
order, the cycle ends with the same statuses, the same backends, the same election and the same
events. A cycle that is cut short changes nothing, and nothing is ever published after it. -/
theorem cycle_is_barrier (s : Monitoring) (began : Moment) (actions : List (Moment × Action))
    {s' : Monitoring} {signals : List Signal}
    (hwithin : ∀ a ∈ actions, a.2.endsCycle = false)
    (hrun : s.run ((began, .beginCycle) :: actions) = some (s', signals)) :
    (s'.monitor.statuses = s.monitor.statuses ∧ s'.backends = s.backends ∧
      s'.monitor.active = s.monitor.active ∧ Quiet signals) ∧
    (∀ now, (s'.monitor.finishCycle s'.backends now).isSome ↔
      ∀ i b, s.backends[i]? = some b → (s.resultOf (actions.map (·.2)) i b).isSome) ∧
    (∀ now m backends effects,
      s'.monitor.finishCycle s'.backends now = some (m, backends, effects) →
      ∃ outcomes, s.Concludes (actions.map (·.2)) outcomes m backends effects) ∧
    (∀ i b error, .crash i error ∈ actions.map (·.2) →
      s.resultOf (actions.map (·.2)) i b = some (.unreachable ["health poll task failed"])) ∧
    (∀ began' actions' t shown, (∀ a ∈ actions', a.2.endsCycle = false) →
      s.run ((began', .beginCycle) :: actions') = some (t, shown) →
      (∀ i, (actions'.map (·.2)).filter (·.concerns i) =
        (actions.map (·.2)).filter (·.concerns i)) →
      ∀ now now', Monitor.concluded (t.monitor.finishCycle t.backends now') =
        Monitor.concluded (s'.monitor.finishCycle s'.backends now)) ∧
    ∀ now, ∃ t, s'.step now .stop = some (t, []) ∧
      ∀ later t' shown, t.run later = some (t', shown) →
        t'.monitor.statuses = s.monitor.statuses ∧ t'.backends = s.backends ∧ Quiet shown := by
  have hbegins : ∀ {began : Moment} {actions : List (Moment × Action)} {t : Monitoring}
      {shown : List Signal}, (∀ a ∈ actions, a.2.endsCycle = false) →
      s.run ((began, .beginCycle) :: actions) = some (t, shown) →
      s.Underway (actions.map (·.2)) t ∧ Quiet shown := by
    intro began actions t shown hwithin hrun
    rw [run_eq_run_steps, run_steps_cons] at hrun
    obtain ⟨next, first, others, hnext, hrest, rfl⟩ := hrun
    obtain ⟨hunderway, rfl⟩ := underway_of_begin_cycle hnext
    exact hunderway.run hwithin ((run_eq_run_steps ..).trans hrest)
  obtain ⟨h, hquiet⟩ := hbegins hwithin hrun
  refine ⟨?_, h.finish_isSome_iff, fun now m backends effects => h.concludes,
    fun i b error hcrash => resultOf_of_crash hcrash b, ?_, ?_⟩
  · obtain ⟨subscribers, rfl⟩ := h
    exact ⟨rfl, rfl, rfl, hquiet⟩
  · intro began' actions' t shown hwithin' hrun' hsame now now'
    obtain ⟨h', -⟩ := hbegins hwithin' hrun'
    rw [Monitor.concluded_finishCycle, Monitor.concluded_finishCycle, h.outcomes_eq,
      h'.outcomes_eq]
    obtain ⟨subscribers, rfl⟩ := h
    obtain ⟨subscribers', rfl⟩ := h'
    simp only [pollOf_congr (hsame _)]
    rfl
  · intro now
    obtain ⟨t, hstop, hhalted⟩ := h.stop now
    refine ⟨t, hstop, fun later t' shown hlater => ?_⟩
    obtain ⟨⟨subscribers, rfl⟩, hquiet'⟩ := hhalted.run hlater
    exact ⟨rfl, rfl, hquiet'⟩

/-- Two nodes that are asked over TLS first and then without it. -/
def underTls : Monitoring :=
  start .lowest true ⟨5000⟩
    [.ofConfig ⟨"a", "10.0.0.1", 3306, 9201, "status"⟩,
      .ofConfig ⟨"b", "10.0.0.2", 3306, 9201, "status"⟩] 1 0

/-- The first node answers at its second URL, and then the poll of the other one crashes. -/
def fallBackThenCrash : List (Moment × Action) :=
  [(1000, .answer 0 (.error (.httpRequest "refused"))), (1001, .answer 0 (.ok healthyReply)),
   (1002, .crash 1 "panic")]

/-- The same, but the crash comes between the two answers. -/
def crashWithinFallBack : List (Moment × Action) :=
  [(1000, .answer 0 (.error (.httpRequest "refused"))), (1001, .crash 1 "panic"),
   (1002, .answer 0 (.ok healthyReply))]

/-- The order of the two polls is not to be seen of the cycle, and the crash is one of its own node
only. -/
theorem cycle_is_barrier_of_two_orders :
    ∃ (s t : Monitoring) (signals shown : List Signal),
      underTls.run ((1000, .beginCycle) :: fallBackThenCrash) = some (s, signals) ∧
      underTls.run ((1000, .beginCycle) :: crashWithinFallBack) = some (t, shown) ∧
      s.monitor.statuses = underTls.monitor.statuses ∧
      underTls.resultOf (fallBackThenCrash.map (·.2)) 0
        (.ofConfig ⟨"a", "10.0.0.1", 3306, 9201, "status"⟩) = some (.answered true 0) ∧
      underTls.resultOf (fallBackThenCrash.map (·.2)) 1
        (.ofConfig ⟨"b", "10.0.0.2", 3306, 9201, "status"⟩) =
          some (.unreachable ["health poll task failed"]) ∧
      (s.monitor.finishCycle s.backends 1003).isSome ∧
      Monitor.concluded (t.monitor.finishCycle t.backends 1003) =
        Monitor.concluded (s.monitor.finishCycle s.backends 1003) := by
  have hends : (underTls.run ((1000, .beginCycle) :: fallBackThenCrash)).any
      (fun last => (last.1.monitor.finishCycle last.1.backends 1003).isSome) = true := by
    decide +kernel
  have hends' : (underTls.run ((1000, .beginCycle) :: crashWithinFallBack)).isSome = true := by
    decide +kernel
  obtain ⟨⟨s, signals⟩, hrun, hover⟩ := (Option.any_eq_true _ _).mp hends
  obtain ⟨⟨t, shown⟩, hrun'⟩ := Option.isSome_iff_exists.mp hends'
  obtain ⟨⟨hstatuses, -, -, -⟩, -, -, hcrash, horder, -⟩ :=
    cycle_is_barrier underTls 1000 fallBackThenCrash (by decide) hrun
  have hsame : ∀ i, (crashWithinFallBack.map (·.2)).filter (·.concerns i) =
      (fallBackThenCrash.map (·.2)).filter (·.concerns i) := by
    intro i
    rcases i with _ | _ | i <;> rfl
  exact ⟨s, t, signals, shown, hrun, hrun', hstatuses, by decide +kernel,
    hcrash 1 _ "panic" (.tail _ (.tail _ (.head _))), hover,
    horder 1000 crashWithinFallBack t shown (by decide) hrun' hsame 1003 1003⟩

end Monitoring

end GaleraProxy
