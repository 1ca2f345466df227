import GaleraProxy.Proofs.Service.Mirroring.Basic

/-!
# Steps of monitors, elections, and those who follow them

What the monitor of a port does, what its runner makes of an election, and what the status logger
and the cluster make of it, looks the same in two services that look the same.
-/

namespace GaleraProxy.Service

variable {c : Config} {s s' t : Service} {port : ProxyPort} {now : Moment} {time : Timestamp}

namespace Mirrors

/-! ## Monitors -/

/-- The monitor of the port goes on, and perhaps the health of backends changes. -/
theorem with_monitor (h : Mirrors c port s t) {lane lane' : Lane} (hlane : s.lane? port = some lane)
    (hlane' : t.lane? port = some lane') (m : Monitor) {backends backends' : List Backend}
    (hbackends : backends.map Backend.withoutHealth = s.backends.map Backend.withoutHealth)
    (hbackends' : backends'.map Backend.withoutHealth = t.backends.map Backend.withoutHealth) :
    (t.withLane port { lane' with monitor := m } backends').sight port =
      (s.withLane port { lane with monitor := m } backends).sight port := by
  have hsame := h.same
  have hwith : ∀ (own : Lane) (l : List Backend) (clients : List Client)
      (logger : Option (StatusLogger.Phase × Duration)),
      sightOf (some { own with monitor := m }) l clients logger =
        { sightOf (some own) l clients logger with
          lane := (sightOf (some own) l clients logger).lane.map fun v =>
            { v with monitor := m } } :=
    fun _ _ _ _ => rfl
  rw [sight, sight, hlane, hlane'] at hsame
  rw [sight_with_lane, sight_with_lane, sight_of_health hbackends, sight_of_health hbackends',
    hwith, hwith, hsame]

/-- A step of a monitor that looks at nothing else. -/
theorem monitor_matches (h : Mirrors c port s t) {own : Action}
    {f f' : Monitor → Option (Monitor × List Effect)} {effects : List (Component × Effect)}
    (hquiet : own.isQuiet = true) (hseen : t.seenAt port own = some own)
    (hown : t.step now time own = t.stepMonitor port f') (hf : ∀ m, f' m = f m)
    (hstep : s.stepMonitor port f = some (s', effects)) : t.Matches port now time own s' := by
  obtain ⟨lane, m, shown, hlane, hm, rfl⟩ := step_monitor_iff.mp ⟨effects, hstep⟩
  obtain ⟨lane', hlane', hmonitor, -, -⟩ := h.lane hlane
  obtain ⟨effects', hstep'⟩ : ∃ effects', t.stepMonitor port f' =
      some (t.withLane port { lane' with monitor := m } t.backends, effects') :=
    step_monitor_iff.mpr ⟨lane', m, shown, hlane', by rw [hf, hmonitor, hm], rfl⟩
  exact h.matches_with_lane own hquiet (hown.trans hstep') hseen
    (h.with_monitor hlane hlane' m rfl rfl)

/-- A cycle of the monitor ends. -/
theorem finish_cycle_matches (h : Mirrors c port s t) {effects : List (Component × Effect)}
    (hstep : s.finishCycle port now = some (s', effects)) :
    t.Matches port now time (.finishCycle port) s' := by
  obtain ⟨lane, m, backends, shown, hlane, hfinish, rfl⟩ := finish_cycle_iff.mp ⟨effects, hstep⟩
  obtain ⟨lane', hlane', hmonitor, -, -⟩ := h.lane hlane
  obtain ⟨backends', shown', hfinish'⟩ := Monitor.finish_cycle_congr h.configured hfinish
  rw [← hmonitor] at hfinish'
  obtain ⟨effects', hstep'⟩ : ∃ effects', t.finishCycle port now =
      some (t.withLane port { lane' with monitor := m } backends', effects') :=
    finish_cycle_iff.mpr ⟨lane', m, backends', shown', hlane', hfinish', rfl⟩
  exact h.matches_with_lane (.finishCycle port) rfl hstep' (if_pos rfl)
    (h.with_monitor hlane hlane' m (Monitor.finish_cycle_without_health hfinish)
      (Monitor.finish_cycle_without_health hfinish'))

/-! ## Runners -/

/-- The runner of the port takes an election. -/
theorem take_election_matches (h : Mirrors c port s t) {effects : List (Component × Effect)}
    (hstep : s.takeElection port = some (s', effects)) :
    t.Matches port now time (.takeElection port) s' := by
  obtain ⟨lane, e, m, hlane, hready, hm, rfl⟩ := take_election_iff.mp ⟨effects, hstep⟩
  obtain ⟨lane', hlane', hmonitor, hrunner, -⟩ := h.lane hlane
  have hidle := Runner.task_of_ready hready
  have hsame := Runner.eq_of_unnumbered hrunner hidle
  have hidle' : lane'.runner.task = .idle := hsame ▸ hidle
  obtain ⟨effects', hstep'⟩ : ∃ effects', t.takeElection port =
      some (t.withLane port ⟨m, (lane'.runner.beginChange t.backends (.election e)).1⟩
        (lane'.runner.beginChange t.backends (.election e)).2.1, effects') :=
    take_election_iff.mpr ⟨lane', e, m, hlane', hsame ▸ hready, hmonitor ▸ hm, rfl⟩
  refine h.matches_with_lane (.takeElection port) rfl hstep' (if_pos rfl) ?_
  have hguests := h.same
  rw [sight, sight, hlane, hlane', sight_of_idle hidle, sight_of_idle hidle'] at hguests
  obtain ⟨-, hguests, hlogger⟩ := Sight.mk.inj hguests
  rw [sight_with_lane, sight_with_lane]
  rcases lane.runner.begin_change_cases s.backends (.election e) with
      ⟨hr, hbackends, hnone⟩ | ⟨i, b, hsevered, hb, hr, hbackends⟩ <;>
    rcases lane'.runner.begin_change_cases t.backends (.election e) with
      ⟨hr', hbackends', hnone'⟩ | ⟨i', b', hsevered', hb', hr', hbackends'⟩ <;>
    rw [hr, hr', hbackends, hbackends']
  · -- the election takes effect at once
    rw [sight_of_idle rfl, sight_of_idle rfl, hguests, hlogger, hsame]
    rfl
  · rw [hsame] at hsevered'
    cases (h.backend_none (hnone i' hsevered')).symm.trans hb'
  · rw [hsame] at hnone'
    obtain ⟨b', hb', -⟩ := h.backend hb
    cases (hnone' i hsevered).symm.trans hb'
  · -- the backend that was active is severed
    rw [hsame] at hsevered'
    obtain rfl := Option.some.inj (hsevered.symm.trans hsevered')
    rw [h.calm.sight_of_begun hlane hb, h.calm'.sight_of_begun hlane' hb', hguests, hlogger, hsame]

end Mirrors

/-! ## Those who follow the active lane -/

theorem sight_leave_failed_logger (s : Service) :
    s.leaveFailedLogger.sight .active =
      if s.logger.isRunning then s.sight .active
      else { s.sight .active with
        lane := (s.sight .active).lane.map fun v =>
          { v with monitor := v.monitor.dropSubscriber loggerPlace } } := by
  unfold leaveFailedLogger
  split <;> rfl

namespace Mirrors

/-- The status logger takes an election. -/
theorem track_election_matches (h : Mirrors c .active s t) {effects : List (Component × Effect)}
    (hstep : s.trackElection time = some (s', effects)) :
    t.Matches .active now time .trackElection s' := by
  obtain ⟨hrunning, e, m, hm, rfl⟩ := track_election_iff.mp ⟨effects, hstep⟩
  obtain ⟨lane', hlane', hmonitor, -, -⟩ := h.lane rfl
  obtain rfl := Option.some.inj hlane'
  obtain ⟨hphase, hinterval⟩ := Prod.mk.inj (Option.some.inj h.logger)
  have hrunning' : t.logger.isRunning = true := by
    rw [StatusLogger.isRunning, hphase]
    exact hrunning
  obtain ⟨effects', hstep'⟩ : ∃ effects', t.trackElection time = some ({ t with
      active := { t.active with monitor := m }
      logger := t.logger.observe t.backends e time }, effects') :=
    track_election_iff.mpr ⟨hrunning', e, m, hmonitor ▸ hm, rfl⟩
  exact ⟨.trackElection, _, effects', rfl, hstep', rfl, h.with_monitor rfl rfl m rfl rfl, rfl,
    h.all⟩

/-- The cluster takes an election. -/
theorem follow_election_matches (h : Mirrors c .active s t) {effects : List (Component × Effect)}
    (hstep : s.followElection = some (s', effects)) :
    t.Matches .active now time .followElection s' := by
  obtain ⟨-, e, m, hm, rfl⟩ := follow_election_iff.mp ⟨effects, hstep⟩
  obtain ⟨lane', hlane', hmonitor, -, -⟩ := h.lane rfl
  obtain rfl := Option.some.inj hlane'
  obtain ⟨effects', hstep'⟩ : ∃ effects', t.followElection = some ({ t with
      active := { t.active with monitor := m }
      cluster := t.cluster.setActive (t.asActive e) }, effects') :=
    follow_election_iff.mpr ⟨h.calm'.sound.following, e, m, hmonitor ▸ hm, rfl⟩
  exact ⟨.followElection, _, effects', rfl, hstep', rfl, h.with_monitor rfl rfl m rfl rfl, rfl,
    h.all⟩

/-- The status logger reports. -/
theorem report_matches (h : Mirrors c .active s t) {effects : List (Component × Effect)}
    (hstep : s.report now = some (s', effects)) :
    t.Matches .active now time .report s' := by
  obtain ⟨due, hdue, hle, rfl⟩ := report_iff.mp ⟨effects, hstep⟩
  obtain ⟨lane', hlane', hmonitor, -, -⟩ := h.lane rfl
  obtain rfl := Option.some.inj hlane'
  obtain ⟨hphase, hinterval⟩ := Prod.mk.inj (Option.some.inj h.logger)
  obtain ⟨effects', hstep'⟩ : ∃ effects', t.report now = some (leaveFailedLogger { t with
      logger := { t.logger with phase := .after t.logger.interval now } }, effects') :=
    report_iff.mpr ⟨due, hphase.trans hdue, hle, rfl⟩
  have hrunning : ({ t.logger with phase := .after t.logger.interval now } :
      StatusLogger).isRunning =
        ({ s.logger with phase := .after s.logger.interval now } : StatusLogger).isRunning := by
    rw [hinterval]
    rfl
  have hsame : ({ t with
        logger := { t.logger with phase := .after t.logger.interval now } } : Service).sight
          .active =
      ({ s with
        logger := { s.logger with phase := .after s.logger.interval now } } : Service).sight
          .active := by
    have hwith : ∀ u : Service, ({ u with
          logger := { u.logger with phase := .after u.logger.interval now } } : Service).sight
            .active =
        { u.sight .active with
          logger := some (.after u.logger.interval now, u.logger.interval) } := fun _ => rfl
    rw [hwith, hwith, h.same, hinterval]
  refine ⟨.report, _, effects', rfl, hstep', rfl, ?_, ?_, ?_⟩
  · rw [sight_leave_failed_logger, sight_leave_failed_logger, hsame, hrunning]
  · rcases leave_failed_logger_cases { t with logger := _ } with heq | heq
    · rw [heq]
      rfl
    · rw [heq]
      rfl
  · rcases leave_failed_logger_cases { t with logger := _ } with heq | heq
    · rw [heq]
      exact h.all
    · rw [heq]
      exact h.all

end Mirrors

end GaleraProxy.Service
