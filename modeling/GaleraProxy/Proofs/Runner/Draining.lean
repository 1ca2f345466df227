import GaleraProxy.Proofs.Runner.Undrained

/-!
# Draining does not disturb routing

A runner with its watch goes through the same states as one that nobody tells to shut down, until it
stops. `Draining.routing_undisturbed` says what holds of whole runs: when the deadline is set, that
nothing moves it, that the runner does not stop before it, and that up to then everything is as in
the run without shutting down.
-/

namespace GaleraProxy

namespace Draining

variable {d t : Draining} {now : Moment} {action : Action} {actions : List (Moment × Action)}

/-- What a step can be. -/
inductive Turn (d : Draining) (now : Moment) : Action → Draining → Prop where
  | serve {action : Serving.Action} {serving : Serving} (hshutdown : action.isShutdown = false)
      (h : d.serving.step now action = some serving) :
      Turn d now (.serve action) { d with serving }
  | raise (wanted : Bool) : Turn d now (.raise wanted) { d with watch.raised := wanted }
  | lose : Turn d now .lose { d with watch.held := false }
  | heed (hphase : d.serving.runner.phase = .serving) (hdue : d.watch.isDue = true) :
      Turn d now .heed { d with
        serving := { d.serving with runner := (d.serving.runner.requestShutdown now).1 }.leave }
  | expire {deadline : Moment} (hphase : d.serving.runner.phase = .draining deadline)
      (hle : deadline ≤ now) :
      Turn d now .expire { d with
        serving := { d.serving with runner := (d.serving.runner.tick now).1 }.leave }

theorem step_turn (h : d.step now action = some t) : d.Turn now action t := by
  cases action with
  | serve action =>
      simp only [step] at h
      split at h
      · cases h
      · rename_i hshutdown
        obtain ⟨serving, hstep, rfl⟩ := Option.map_eq_some_iff.mp h
        exact .serve (Bool.eq_false_iff.mpr hshutdown) hstep
  | raise wanted =>
      simp only [step] at h
      split at h
      · obtain rfl := Option.some.inj h
        exact .raise wanted
      · cases h
  | lose =>
      obtain rfl := Option.some.inj h
      exact .lose
  | heed =>
      simp only [step] at h
      split at h
      · rename_i hwhen
        obtain ⟨serving, hstep, rfl⟩ := Option.map_eq_some_iff.mp h
        simp only [Serving.step] at hstep
        split at hstep
        · obtain rfl := Option.some.inj hstep
          exact .heed hwhen.1 hwhen.2
        · cases hstep
      · cases h
  | expire =>
      simp only [step] at h
      split at h
      · rename_i deadline hdeadline
        split at h
        · rename_i hle
          obtain ⟨serving, hstep, rfl⟩ := Option.map_eq_some_iff.mp h
          simp only [Serving.step] at hstep
          split at hstep
          · obtain rfl := Option.some.inj hstep
            refine .expire ?_ hle
            unfold Runner.deadline? at hdeadline
            split at hdeadline
            · obtain rfl := Option.some.inj hdeadline
              assumption
            · cases hdeadline
            · cases hdeadline
            · cases hdeadline
          · cases hstep
        · cases h
      · cases h

theorem run_cons {rest : List (Moment × Action)} : d.run ((now, action) :: rest) = some t ↔
    ∃ u, d.step now action = some u ∧ u.run rest = some t :=
  Option.bind_eq_some_iff

/-! ## The deadline -/

/-- A runner that heeds the watch has a deadline, if the clock can show it. -/
theorem heed_phase {r : Runner} (hphase : r.phase = .serving)
    (hclock : now + r.shutdownDelay.nanos < Moment.horizon) :
    (r.requestShutdown now).1 = { r with phase := .draining (now + r.shutdownDelay.nanos) } := by
  simp [Runner.requestShutdown, Moment.later?, hphase, hclock]

theorem expire_phase {r : Runner} {deadline : Moment} (hphase : r.phase = .draining deadline)
    (hle : deadline ≤ now) : (r.tick now).1 = { r with phase := .stopped } := by
  simp [Runner.tick, hphase, hle]

/-- A runner that has stopped does not start again. -/
theorem run_stopped (hphase : d.serving.runner.phase = .stopped) (hrun : d.run actions = some t) :
    heeded actions = [] ∧ t.serving.runner.phase = .stopped := by
  induction actions generalizing d with
  | nil =>
      obtain rfl := Option.some.inj hrun
      exact ⟨rfl, hphase⟩
  | cons first rest ih =>
      obtain ⟨now, action⟩ := first
      obtain ⟨u, hstep, hrest⟩ := run_cons.mp hrun
      have hgoes (hu : u.serving.runner.phase = .stopped) :
          heeded rest = [] ∧ t.serving.runner.phase = .stopped := ih hu hrest
      cases step_turn hstep with
      | serve hshutdown hserve =>
          exact hgoes ((Serving.step_goes hshutdown hserve).phase.trans hphase)
      | raise | lose => exact hgoes hphase
      | heed hserving => cases hserving.symm.trans hphase
      | expire hdraining => cases hdraining.symm.trans hphase

/-- The runner has a deadline and serves, or it has stopped at the deadline or later. -/
def KeepsTo (d : Draining) (deadline : Moment) (actions : List (Moment × Action)) : Prop :=
  d.serving.runner.phase = .draining deadline ∨
    d.serving.runner.phase = .stopped ∧ ∃ later, (later, .expire) ∈ actions ∧ deadline ≤ later

theorem KeepsTo.cons {deadline : Moment} (h : t.KeepsTo deadline actions)
    (first : Moment × Action) : t.KeepsTo deadline (first :: actions) :=
  h.imp_right fun ⟨hstopped, later, hmem, hle⟩ =>
    ⟨hstopped, later, List.mem_cons_of_mem _ hmem, hle⟩

/-- Nothing moves the deadline of a runner, and it does not stop before. -/
theorem run_draining {deadline : Moment} (hphase : d.serving.runner.phase = .draining deadline)
    (hrun : d.run actions = some t) : heeded actions = [] ∧ t.KeepsTo deadline actions := by
  induction actions generalizing d with
  | nil =>
      obtain rfl := Option.some.inj hrun
      exact ⟨rfl, .inl hphase⟩
  | cons first rest ih =>
      obtain ⟨now, action⟩ := first
      obtain ⟨u, hstep, hrest⟩ := run_cons.mp hrun
      have hgoes (hu : u.serving.runner.phase = .draining deadline) :
          heeded rest = [] ∧ t.KeepsTo deadline ((now, action) :: rest) :=
        ⟨(ih hu hrest).1, (ih hu hrest).2.cons _⟩
      cases step_turn hstep with
      | serve hshutdown hserve =>
          exact hgoes ((Serving.step_goes hshutdown hserve).phase.trans hphase)
      | raise | lose => exact hgoes hphase
      | heed hserving => cases hserving.symm.trans hphase
      | expire hdraining hle =>
          -- the only step that ends the runner has looked at the clock
          obtain rfl := Runner.Phase.draining.inj (hdraining.symm.trans hphase)
          have hstopped : (Serving.leave { d.serving with
              runner := (d.serving.runner.tick now).1 }).runner.phase = .stopped := by
            rw [Serving.leave_runner, expire_phase hphase hle]
          obtain ⟨hheeded, hend⟩ := run_stopped hstopped hrest
          exact ⟨hheeded, .inr ⟨hend, now, List.mem_cons_self, hle⟩⟩

/-- The runner heeds the watch at most once, and its deadline is the delay after that moment. -/
theorem run_serving (hphase : d.serving.runner.phase = .serving) (hrun : d.run actions = some t)
    (hclock : ∀ now, (now, .heed) ∈ actions →
      now + d.serving.runner.shutdownDelay.nanos < Moment.horizon) :
    (heeded actions = [] ∧ t.serving.runner.phase = .serving) ∨
    ∃ now, heeded actions = [now] ∧
      t.KeepsTo (now + d.serving.runner.shutdownDelay.nanos) actions := by
  induction actions generalizing d with
  | nil =>
      obtain rfl := Option.some.inj hrun
      exact .inl ⟨rfl, hphase⟩
  | cons first rest ih =>
      obtain ⟨now, action⟩ := first
      obtain ⟨u, hstep, hrest⟩ := run_cons.mp hrun
      have hgoes (hu : u.serving.runner.phase = .serving)
          (hdelay : u.serving.runner.shutdownDelay = d.serving.runner.shutdownDelay) :
          (heeded rest = [] ∧ t.serving.runner.phase = .serving) ∨
          ∃ moment, heeded rest = [moment] ∧
            t.KeepsTo (moment + d.serving.runner.shutdownDelay.nanos) ((now, action) :: rest) := by
        have hrest' := ih hu hrest fun moment hmem => by
          rw [hdelay]
          exact hclock moment (List.mem_cons_of_mem _ hmem)
        rw [hdelay] at hrest'
        exact hrest'.imp_right fun ⟨moment, hheeded, hkeeps⟩ => ⟨moment, hheeded, hkeeps.cons _⟩
      cases step_turn hstep with
      | serve hshutdown hserve =>
          have hkept := Serving.step_goes hshutdown hserve
          exact hgoes (hkept.phase.trans hphase) hkept.delay
      | raise | lose => exact hgoes hphase rfl
      | heed =>
          have hdraining : (Serving.leave { d.serving with
              runner := (d.serving.runner.requestShutdown now).1 }).runner.phase =
                .draining (now + d.serving.runner.shutdownDelay.nanos) := by
            rw [Serving.leave_runner, heed_phase hphase (hclock now List.mem_cons_self)]
          obtain ⟨hheeded, hkeeps⟩ := run_draining hdraining hrest
          exact .inr ⟨now, congrArg (now :: ·) hheeded, hkeeps.cons _⟩
      | expire hdraining => cases hdraining.symm.trans hphase

/-- A runner heeds the watch only after shutdown was wanted or the sender was gone. -/
theorem due_of_heed {before after : List (Moment × Action)}
    (hrun : d.run (before ++ (now, .heed) :: after) = some t) :
    d.watch.isDue = true ∨
    ∃ earlier, (earlier, .raise true) ∈ before ∨ (earlier, .lose) ∈ before := by
  induction before generalizing d with
  | nil =>
      obtain ⟨u, hstep, -⟩ := run_cons.mp hrun
      cases step_turn hstep with
      | heed _ hdue => exact .inl hdue
  | cons first rest ih =>
      obtain ⟨moment, action⟩ := first
      obtain ⟨u, hstep, hrest⟩ := run_cons.mp hrun
      have hgoes (hu : u.watch.isDue = true → d.watch.isDue = true) : d.watch.isDue = true ∨
          ∃ earlier, (earlier, .raise true) ∈ (moment, action) :: rest ∨
            (earlier, .lose) ∈ (moment, action) :: rest := by
        refine (ih hrest).imp hu fun ⟨earlier, hmem⟩ => ⟨earlier, ?_⟩
        exact hmem.imp (List.mem_cons_of_mem _) (List.mem_cons_of_mem _)
      cases step_turn hstep with
      | serve | heed | expire => exact hgoes id
      | raise wanted =>
          cases wanted with
          | true => exact .inr ⟨moment, .inl List.mem_cons_self⟩
          | false =>
              refine hgoes fun hdue => ?_
              simp only [Watch.isDue, Bool.false_or] at hdue
              simp [Watch.isDue, hdue]
      | lose => exact .inr ⟨moment, .inr List.mem_cons_self⟩

/-! ## Without shutting down -/

/-- Up to its end a runner goes through the run that it would have gone through otherwise. -/
theorem run_served (hrun : d.run actions = some t) (hrunning : t.serving.runner.isRunning = true) :
    d.serving.runner.isRunning = true ∧
    d.serving.undrained.run (served actions) = some t.serving.undrained := by
  induction actions generalizing d with
  | nil =>
      obtain rfl := Option.some.inj hrun
      exact ⟨hrunning, rfl⟩
  | cons first rest ih =>
      obtain ⟨now, action⟩ := first
      obtain ⟨u, hstep, hrest⟩ := run_cons.mp hrun
      obtain ⟨hu, hserved⟩ := ih hrest
      cases step_turn hstep with
      | @serve action serving hshutdown hserve =>
          have hd : d.serving.runner.isRunning = true :=
            (Serving.running_of_phase (Serving.step_goes hshutdown hserve).phase).symm.trans hu
          refine ⟨hd, ?_⟩
          rw [show served ((now, .serve action) :: rest) = (now, action) :: served rest from rfl]
          simp only [Serving.run, Serving.step_undrained hd hshutdown, hserve]
          exact hserved
      | raise | lose => exact ⟨hu, hserved⟩
      | heed hphase =>
          -- with a deadline the runner is the same but for where it stands
          refine ⟨by simp [Runner.isRunning, hphase], ?_⟩
          rw [Serving.leave_runner] at hu
          rcases Serving.leave_cases { d.serving with
            runner := (d.serving.runner.requestShutdown now).1 } with ⟨hleave, -⟩ | ⟨-, hover⟩
          · rw [hleave] at hserved
            simp only [Serving.undrained, Runner.undrained_request_shutdown] at hserved
            exact hserved
          · cases hover.symm.trans hu
      | expire hphase hle =>
          rw [Serving.leave_runner, expire_phase hphase hle] at hu
          cases hu

/-- Whatever can still happen to a runner happens as if nobody had told it to shut down. -/
theorem run_serve (hrunning : d.serving.runner.isRunning = true)
    {more : List (Moment × Serving.Action)} (hshutdown : ∀ x ∈ more, x.2.isShutdown = false) :
    (d.run (more.map fun x => (x.1, .serve x.2))).map (fun t => t.serving.undrained) =
      d.serving.undrained.run more := by
  rw [Serving.run_undrained hrunning hshutdown]
  -- the watch stays as it is, and so the induction needs not know that the runner is running
  clear hrunning
  induction more generalizing d with
  | nil => rfl
  | cons first rest ih =>
      obtain ⟨now, action⟩ := first
      obtain ⟨hfirst, hothers⟩ := List.forall_mem_cons.mp hshutdown
      have hstep : d.step now (.serve action) =
          (d.serving.step now action).map fun serving => { d with serving } := by
        simp only [step, hfirst, Bool.false_eq_true, ite_false]
      simp only [List.map_cons, run, hstep, Serving.run]
      cases d.serving.step now action with
      | none => rfl
      | some serving => exact ih hothers

/-! ## Channels that have ended -/

theorem Turn.ended (h : d.Turn now action t) :
    (d.serving.elections.receive = .ended → t.serving.elections.receive = .ended ∧
      t.serving.runner.nextActive = d.serving.runner.nextActive) ∧
    (d.serving.traffic.receive = .ended → t.serving.traffic.receive = .ended ∧
      t.serving.runner.nextTraffic = d.serving.runner.nextTraffic) := by
  cases h with
  | serve hshutdown hserve =>
      have hgoes := Serving.step_goes hshutdown hserve
      exact ⟨hgoes.elections.ended, hgoes.traffic.ended⟩
  | raise | lose => exact ⟨fun hended => ⟨hended, rfl⟩, fun hended => ⟨hended, rfl⟩⟩
  | heed => exact d.serving.leave_ended (d.serving.runner.request_shutdown_agrees now)
  | expire => exact d.serving.leave_ended (d.serving.runner.tick_agrees now)

/-- When the sender of a channel is gone and nothing waits in it, its last value stays in force. -/
theorem run_ended (hrun : d.run actions = some t) :
    (d.serving.elections.receive = .ended →
      t.serving.runner.nextActive = d.serving.runner.nextActive) ∧
    (d.serving.traffic.receive = .ended →
      t.serving.runner.nextTraffic = d.serving.runner.nextTraffic) := by
  induction actions generalizing d with
  | nil =>
      obtain rfl := Option.some.inj hrun
      exact ⟨fun _ => rfl, fun _ => rfl⟩
  | cons first rest ih =>
      obtain ⟨u, hstep, hrest⟩ := run_cons.mp hrun
      obtain ⟨helections, htraffic⟩ := (step_turn hstep).ended
      obtain ⟨helections', htraffic'⟩ := ih hrest
      constructor
      · intro hended
        obtain ⟨hended', hactive⟩ := helections hended
        exact (helections' hended').trans hactive
      · intro hended
        obtain ⟨hended', henabled⟩ := htraffic hended
        exact (htraffic' hended').trans henabled

/-! ## The whole run -/

theorem served_not_shutdown (hrun : d.run actions = some t) :
    ∀ x ∈ served actions, x.2.isShutdown = false := by
  induction actions generalizing d with
  | nil => simp [served]
  | cons first rest ih =>
      obtain ⟨now, action⟩ := first
      obtain ⟨u, hstep, hrest⟩ := run_cons.mp hrun
      cases step_turn hstep with
      | serve hshutdown => exact List.forall_mem_cons.mpr ⟨hshutdown, ih hrest⟩
      | raise | lose | heed | expire => exact ih hrest

/-- For every run of a runner whose deadlines the clock can show, with any watch.

The watch is heeded once at most, and not before shutdown was wanted or its sender was gone. From
then on the deadline is the delay after that moment, until the runner stops, at its deadline or
later.

As long as the runner has not stopped, it stands as it does after the same run without shutting
down: it has the same active backend and the same traffic switch, its channels hold the same, and
all calls and severs at the backends are the same. What it can do next is the same as well. The
active backend and the traffic switch are those that were sent last, unless these still wait, and
they stay when the senders are gone. -/
theorem routing_undisturbed (delay : Duration) (backends : List BackendConfig) (watch : Watch)
    (actions : List (Moment × Action)) {d : Draining}
    (hrun : (start delay backends watch).run actions = some d)
    (hclock : ∀ now, (now, .heed) ∈ actions → now + delay.nanos < Moment.horizon) :
    ((heeded actions = [] ∧ d.serving.runner.phase = .serving) ∨
      ∃ now, heeded actions = [now] ∧ d.KeepsTo (now + delay.nanos) actions) ∧
    (∀ before now after, actions = before ++ (now, .heed) :: after → watch.isDue = true ∨
      ∃ earlier, (earlier, .raise true) ∈ before ∨ (earlier, .lose) ∈ before) ∧
    (d.serving.runner.isRunning = true →
      (Serving.start delay backends).run (served actions) = some d.serving.undrained ∧
      (∀ more : List (Moment × Serving.Action), (∀ x ∈ more, x.2.isShutdown = false) →
        (d.run (more.map fun x => (x.1, .serve x.2))).map (fun t => t.serving.undrained) =
          d.serving.undrained.run more) ∧
      d.serving.elections.waiting.getD d.serving.runner.nextActive =
        ((served actions).filterMap (·.2.elected?)).getLastD none ∧
      d.serving.traffic.waiting.getD d.serving.runner.nextTraffic =
        ((served actions).filterMap (·.2.toggled?)).getLastD true) ∧
    ∀ more t, d.run more = some t →
      (d.serving.elections.receive = .ended →
        t.serving.runner.nextActive = d.serving.runner.nextActive) ∧
      (d.serving.traffic.receive = .ended →
        t.serving.runner.nextTraffic = d.serving.runner.nextTraffic) := by
  refine ⟨run_serving rfl hrun hclock, ?_, ?_, fun more t hmore => run_ended hmore⟩
  · rintro before now after rfl
    exact due_of_heed hrun
  · intro hrunning
    have hserved := (run_served hrun hrunning).2
    obtain ⟨hactive, htraffic⟩ := Serving.run_coming (served_not_shutdown hrun) hserved rfl rfl
    exact ⟨hserved, fun more hmore => run_serve hrunning hmore, hactive, htraffic⟩

/-- A client connects while the runner drains, and loses its session to an election, which is the
last. In the meantime the watch changes its mind and loses its sender. -/
def whileDraining : List (Moment × Action) :=
  [(0, .serve (.elect (some 0))), (0, .serve .takeElection), (0, .raise true), (1000000000, .heed),
   (1000000000, .raise false), (2000000000, .serve (.connect (.empty 8))), (2000000000, .lose),
   (3000000000, .serve (.atBackend 0 (.endDial 0 (.ok (.empty 8))))),
   (3000000000, .serve (.atBackend 0 (.stepCall 0))),
   (3000000000, .serve (.atBackend 0 (.stepCall 0))),
   (3000000000, .serve (.atBackend 0 (.stepCall 0))), (4000000000, .serve (.elect (some 1))),
   (4000000000, .serve .closeElections), (4000000000, .serve .takeElection),
   (4000000000, .serve (.stepRunner 0)), (4000000000, .serve (.stepRunner 0)),
   (4000000000, .serve (.stepRunner 0)), (4000000000, .serve (.stepRunner 0))]

/-- The deadline is five seconds after the watch was heeded, and until then nobody could tell. -/
theorem routing_undisturbed_of_late_election : ∃ d t,
    (start (.ofSeconds 5) Serving.twoNodes ⟨false, true⟩).run whileDraining = some d ∧
    d.run [(6000000000, .expire)] = some t ∧ d.serving.runner.phase = .draining 6000000000 ∧
    (Serving.start (.ofSeconds 5) Serving.twoNodes).run (served whileDraining) =
      some d.serving.undrained ∧
    d.serving.runner.active = some 1 ∧ (d.serving.backends.map (·.generation)) = [1, 0] ∧
    t.serving.runner.phase = .stopped ∧ t.serving.runner.nextActive = some 1 := by
  have hend : ((start (.ofSeconds 5) Serving.twoNodes ⟨false, true⟩).run whileDraining).any
      (fun d => d.serving.runner.isRunning = true ∧ heeded whileDraining = [1000000000] ∧
      (d.serving.elections.fed = false ∧ d.serving.elections.waiting = none) ∧
      d.serving.runner.task = .idle ∧ d.serving.runner.active = some 1 ∧
      d.serving.backends.map (·.generation) = [1, 0] ∧
      (d.run [(6000000000, .expire)]).any fun t => t.serving.runner.phase = .stopped) = true := by
    decide +kernel
  obtain ⟨d, hrun, hlast⟩ := (Option.any_eq_true _ _).mp hend
  obtain ⟨hrunning, hheeded, hended, hidle, hactive, hgenerations, hlate⟩ := of_decide_eq_true hlast
  obtain ⟨t, hexpire, hstopped⟩ := (Option.any_eq_true _ _).mp hlate
  have hclock (now : Moment) (hmem : (now, .heed) ∈ whileDraining) :
      now + (Duration.ofSeconds 5).nanos < Moment.horizon := by
    obtain rfl : now = 1000000000 := by simpa [whileDraining] using hmem
    decide
  obtain ⟨hphase, -, hsame, hlater⟩ :=
    routing_undisturbed (.ofSeconds 5) Serving.twoNodes ⟨false, true⟩ whileDraining hrun hclock
  have hdeadline : d.serving.runner.phase = .draining 6000000000 := by
    rcases hphase with ⟨hnone, -⟩ | ⟨now, hnow, hdraining | ⟨hover, -⟩⟩
    · cases hnone.symm.trans hheeded
    · obtain rfl := List.singleton_inj.mp (hnow.symm.trans hheeded)
      exact hdraining
    · simp [Runner.isRunning, hover] at hrunning
  have hnext := (hlater _ t hexpire).1 (Channel.receive_ended_iff.mpr hended)
  rw [Runner.next_active_of_idle hidle, hactive] at hnext
  exact ⟨d, t, hrun, hexpire, hdeadline, (hsame hrunning).1, hactive, hgenerations,
    of_decide_eq_true hstopped, hnext⟩

end Draining

end GaleraProxy
