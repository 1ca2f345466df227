import GaleraProxy.Proofs.Config.Checking
import GaleraProxy.Proofs.Service.Progress
import GaleraProxy.Service.Standing

/-!
# What the clock has to show

The status logger and the runners add configured durations to the present moment, and they fail if
the clock cannot show the sum. `Clockwork` holds what there is of these components, `Clockwork.Step`
lists what a step of the service can do to it, and `timing_failures` says for a valid configuration
what makes a component fail in a run.
-/

namespace GaleraProxy

/-! ## Durations that are added to a moment -/

theorem Moment.later_eq_none_iff {now : Moment} {d : Duration} :
    now.later? d = none ↔ horizon ≤ now + d.nanos := by
  rw [later?, ite_eq_right_iff, ← Nat.not_lt]
  exact ⟨fun h hlt => Option.some_ne_none _ (h hlt), fun h hlt => absurd hlt h⟩

theorem Moment.later_of_lt {now : Moment} {d : Duration} (h : now + d.nanos < horizon) :
    now.later? d = some (now + d.nanos) :=
  if_pos h

/-- A logger that has time between its reports fails if the clock cannot show the next one. -/
theorem StatusLogger.Phase.after_eq_failed_iff {interval : Duration} {now : Moment}
    {reason : String} (hinterval : interval.nanos ≠ 0) : after interval now = .failed reason ↔
      Moment.horizon ≤ now + interval.nanos ∧ reason = Moment.overflowMessage := by
  by_cases hlt : now + interval.nanos < Moment.horizon
  · have hwaiting : after interval now = .waiting (now + interval.nanos) := by
      rw [after, Moment.later_of_lt hlt]
      exact if_neg hinterval
    rw [hwaiting]
    exact ⟨fun h => (StatusLogger.Phase.noConfusion h), fun h => absurd hlt (Nat.not_lt.mpr h.1)⟩
  · have hle : Moment.horizon ≤ now + interval.nanos := Nat.not_lt.mp hlt
    have hfailed : after interval now = .failed Moment.overflowMessage := by
      rw [after, Moment.later_eq_none_iff.mpr hle]
    rw [hfailed, StatusLogger.Phase.failed.injEq, eq_comm]
    exact (and_iff_right hle).symm

namespace Runner

/-- How long a runner goes on after a request to shut down, and where it stands. -/
def timing (r : Runner) : Duration × Phase := (r.shutdownDelay, r.phase)

/-- Where a runner stands after a request to shut down. -/
def Phase.heed (delay : Duration) (now : Moment) : Phase :=
  match now.later? delay with
  | some deadline => .draining deadline
  | none => .failed

theorem Phase.heed_eq_failed_iff {delay : Duration} {now : Moment} :
    heed delay now = .failed ↔ Moment.horizon ≤ now + delay.nanos := by
  rw [← Moment.later_eq_none_iff, heed]
  split
  · simp [*]
  · simp [*]

variable {r r' : Runner}

theorem begin_change_timing (r : Runner) (backends : List Backend) (change : Change) :
    (r.beginChange backends change).1.timing = r.timing := by
  rcases r.begin_change_cases backends change with ⟨heq, -⟩ | ⟨i, b, -, -, heq, -⟩
  · rw [heq]
    cases change <;> rfl
  · rw [heq]
    rfl

theorem step_change_timing {backends backends' : List Backend} {pick : Nat} {effects : List Effect}
    (h : r.stepChange backends pick = some (r', backends', effects)) : r'.timing = r.timing := by
  obtain ⟨i, k, change, b, -, -, ⟨-, rfl, -⟩ | ⟨next, shown, -, rfl, -⟩⟩ := step_change_cases h
  · cases change <;> rfl
  · rfl

theorem request_shutdown_timing (hserving : r.phase = .serving) (now : Moment) :
    (r.requestShutdown now).1.timing = (r.shutdownDelay, .heed r.shutdownDelay now) := by
  rw [requestShutdown, hserving]
  rfl

theorem tick_timing {now deadline : Moment} (hphase : r.phase = .draining deadline)
    (hdue : deadline ≤ now) : (r.tick now).1.timing = (r.shutdownDelay, .stopped) := by
  rw [tick, hphase]
  simp only [hdue, if_true]
  rfl

end Runner

namespace Service

/-! ## The components that wait for moments -/

/-- How often reports are due and where the status logger stands, and how long the runner of each
port goes on after a request to shut down and where it stands. -/
structure Clockwork where
  interval : Duration
  logger : StatusLogger.Phase
  runner? : ProxyPort → Option (Duration × Runner.Phase)

/-- Another state for the runner of a port. -/
def Clockwork.setRunner (t : Clockwork) (port : ProxyPort) (timing : Duration × Runner.Phase) :
    Clockwork :=
  { t with runner? := fun q => if q = port then some timing else t.runner? q }

/-- The clockwork of a service. -/
def clockwork (s : Service) : Clockwork where
  interval := s.logger.interval
  logger := s.logger.phase
  runner? := fun q => (s.lane? q).map fun lane => lane.runner.timing

/-- Whether an action takes a component to another moment or to its end. -/
def Action.isTimed : Action → Bool
  | .report | .stopLogger | .drain _ | .stopRunner _ => true
  | _ => false

/-- Everything that an action at a moment can do to the clockwork. -/
inductive Clockwork.Step (now : Moment) (t : Clockwork) : Action → Clockwork → Prop where
  | report {due : Moment} (hphase : t.logger = .waiting due) :
      Step now t .report { t with logger := .after t.interval now }
  | stopLogger {due : Moment} (hphase : t.logger = .waiting due) :
      Step now t .stopLogger { t with logger := .stopped }
  | drain {port : ProxyPort} {delay : Duration} (hphase : t.runner? port = some (delay, .serving)) :
      Step now t (.drain port) (t.setRunner port (delay, .heed delay now))
  | stopRunner {port : ProxyPort} {delay : Duration} {deadline : Moment}
      (hphase : t.runner? port = some (delay, .draining deadline)) :
      Step now t (.stopRunner port) (t.setRunner port (delay, .stopped))
  | other {action : Action} (huntimed : action.isTimed = false) : Step now t action t

variable {s s' : Service} {now : Moment} {time : Timestamp} {action : Action}
  {effects : List (Component × Effect)}

theorem runner?_of_lane {port : ProxyPort} {lane : Lane} (h : s.lane? port = some lane) :
    s.clockwork.runner? port = some lane.runner.timing := by
  simp only [clockwork, h, Option.map_some]

/-- Two services have the same clockwork if their loggers and their runners stand at the same. -/
theorem clockwork_eq (hinterval : s'.logger.interval = s.logger.interval)
    (hlogger : s'.logger.phase = s.logger.phase)
    (hrunner : ∀ q, (s'.lane? q).map (fun lane => lane.runner.timing) =
      (s.lane? q).map fun lane => lane.runner.timing) : s'.clockwork = s.clockwork := by
  simp only [clockwork, hinterval, hlogger, hrunner]

/-- A lane whose runner stands where it stood. -/
theorem clockwork_with_lane {port : ProxyPort} {lane lane' : Lane} (backends : List Backend)
    (hlane : s.lane? port = some lane) (htiming : lane'.runner.timing = lane.runner.timing) :
    (s.withLane port lane' backends).clockwork = s.clockwork := by
  refine clockwork_eq (by simp) (by simp) fun q => ?_
  rw [lane?_with_lane]
  split
  · subst q
    rw [hlane, Option.map_some, Option.map_some, htiming]
  · rfl

/-- A lane whose runner stands elsewhere. -/
theorem clockwork_set_lane (s : Service) (port : ProxyPort) (lane : Lane) :
    (s.setLane port lane).clockwork = s.clockwork.setRunner port lane.runner.timing := by
  have hrunner : ∀ q, ((s.setLane port lane).lane? q).map (fun lane => lane.runner.timing) =
      if q = port then some lane.runner.timing
      else (s.lane? q).map fun lane => lane.runner.timing := by
    intro q
    cases port <;> cases q <;> rfl
  have hlogger : (s.setLane port lane).logger = s.logger := by
    cases port <;> rfl
  simp only [clockwork, Clockwork.setRunner, hrunner, hlogger]

theorem clockwork_leave_lane (s : Service) (port : ProxyPort) (lane : Lane) :
    (s.leaveLane port lane).clockwork = s.clockwork.setRunner port lane.runner.timing := by
  rw [← clockwork_set_lane]
  refine clockwork_eq ?_ ?_ fun q => ?_
  · cases port <;> rfl
  · cases port <;> rfl
  · cases port <;> cases q <;> rfl

theorem clockwork_leave_failed_logger (s : Service) :
    s.leaveFailedLogger.clockwork = s.clockwork := by
  rcases leave_failed_logger_cases s with heq | heq
  · rw [heq]
  · rw [heq]
    exact clockwork_eq rfl rfl fun q => by cases q <;> rfl

/-! ## Each kind of step -/

theorem step_monitor_clockwork {port : ProxyPort} {f : Monitor → Option (Monitor × List Effect)}
    (h : s.stepMonitor port f = some (s', effects)) : s'.clockwork = s.clockwork := by
  obtain ⟨lane, m, shown, hlane, -, rfl⟩ := step_monitor_iff.mp ⟨effects, h⟩
  exact clockwork_with_lane _ hlane rfl

theorem step_backend_clockwork {n : Nat}
    {f : Backend → Nat → Option (Backend × List (Component × Effect))}
    (h : s.stepBackend n f = some (s', effects)) : s'.clockwork = s.clockwork := by
  obtain ⟨c, -, h⟩ := Option.bind_eq_some_iff.mp h
  obtain ⟨b, -, h⟩ := Option.bind_eq_some_iff.mp h
  obtain ⟨⟨b', shown⟩, -, h⟩ := Option.bind_eq_some_iff.mp h
  obtain ⟨rfl, -⟩ := Prod.mk.inj (Option.some.inj h)
  exact clockwork_eq rfl rfl fun q => by cases q <;> rfl

theorem take_traffic_clockwork {port : ProxyPort} (h : s.takeTraffic port = some (s', effects)) :
    s'.clockwork = s.clockwork := by
  obtain ⟨lane, hlane, h⟩ := Option.bind_eq_some_iff.mp h
  simp only [Bool.not_eq_eq_eq_not, Bool.not_true] at h
  split at h
  · cases h
  · split at h
    · rename_i enabled channel hreceive
      obtain ⟨rfl, -⟩ := Prod.mk.inj (Option.some.inj h)
      let runner := (lane.runner.beginChange s.backends (.traffic enabled)).1
      have hsame : (s.withLane port { lane with runner } s.backends).clockwork = s.clockwork :=
        clockwork_with_lane s.backends hlane (lane.runner.begin_change_timing _ _)
      rw [← hsame]
      refine clockwork_eq ?_ ?_ fun q => ?_
      · cases port <;> rfl
      · cases port <;> rfl
      · cases port <;> cases q <;> rfl
    · cases h

theorem drain_clockwork {port : ProxyPort} (h : s.drain port now = some (s', effects)) :
    s.clockwork.Step now (.drain port) s'.clockwork := by
  obtain ⟨lane, hlane, h⟩ := Option.bind_eq_some_iff.mp h
  simp only [Bool.not_eq_eq_eq_not, Bool.not_true] at h
  split at h
  · cases h
  · split at h
    · rename_i hphase
      obtain ⟨rfl, -⟩ := Prod.mk.inj (Option.some.inj h)
      have hown : s.clockwork.runner? port = some (lane.runner.shutdownDelay, .serving) := by
        rw [runner?_of_lane hlane, Runner.timing, hphase]
      have hheed := lane.runner.request_shutdown_timing hphase now
      have hnext : Clockwork.Step now s.clockwork (.drain port) (s.clockwork.setRunner port
          (lane.runner.shutdownDelay, .heed lane.runner.shutdownDelay now)) := .drain hown
      rw [← hheed] at hnext
      split
      · rw [clockwork_set_lane]
        exact hnext
      · rw [clockwork_leave_lane]
        exact hnext
    all_goals cases h

theorem stop_runner_clockwork {port : ProxyPort} (h : s.stopRunner port now = some (s', effects)) :
    s.clockwork.Step now (.stopRunner port) s'.clockwork := by
  obtain ⟨lane, hlane, h⟩ := Option.bind_eq_some_iff.mp h
  obtain ⟨deadline, hdeadline, h⟩ := Option.bind_eq_some_iff.mp h
  have hphase : lane.runner.phase = .draining deadline := by
    unfold Runner.deadline? at hdeadline
    split at hdeadline
    · rename_i own hphase
      rw [hphase, Option.some.inj hdeadline]
    all_goals cases hdeadline
  obtain ⟨hdue, h⟩ := Option.ite_none_right_eq_some.mp h
  have heq : s.leaveLane port { lane with runner := (lane.runner.tick now).1 } = s' :=
    (Prod.mk.inj (Option.some.inj h)).1
  have hle : deadline ≤ now := of_decide_eq_true (Bool.and_eq_true_iff.mp hdue).2
  have hown : s.clockwork.runner? port = some (lane.runner.shutdownDelay, .draining deadline) := by
    rw [runner?_of_lane hlane, Runner.timing, hphase]
  rw [← heq, clockwork_leave_lane, Runner.tick_timing hphase hle]
  exact .stopRunner hown

theorem report_clockwork (h : s.report now = some (s', effects)) :
    s.clockwork.Step now .report s'.clockwork := by
  obtain ⟨due, hphase, -, rfl⟩ := report_iff.mp ⟨effects, h⟩
  rw [clockwork_leave_failed_logger]
  exact .report hphase

theorem stop_logger_clockwork (h : s.stopLogger = some (s', effects)) :
    s.clockwork.Step now .stopLogger s'.clockwork := by
  obtain ⟨hrunning, h⟩ := Option.ite_none_right_eq_some.mp h
  have heq : { s with
      logger := s.logger.stop.1
      active := { s.active with monitor := s.active.monitor.dropSubscriber loggerPlace } } = s' :=
    (Prod.mk.inj (Option.some.inj h)).1
  cases hphase : s.logger.phase with
  | waiting due =>
      have hstopped : s.logger.stop.1 = { s.logger with phase := .stopped } := by
        rw [StatusLogger.stop, hphase]
      have hsame : s'.clockwork = { s.clockwork with logger := .stopped } := by
        rw [← heq, hstopped]
        simp only [clockwork, Clockwork.mk.injEq, true_and]
        funext q
        cases q <;> rfl
      rw [hsame]
      exact .stopLogger hphase
  | stopped => simp [StatusLogger.isRunning, hphase] at hrunning
  | failed reason => simp [StatusLogger.isRunning, hphase] at hrunning

/-- A step of the service is a step of its clockwork. -/
theorem step_clockwork (h : s.step now time action = some (s', effects)) :
    s.clockwork.Step now action s'.clockwork := by
  have hother : ∀ {action : Action}, action.isTimed = false → s'.clockwork = s.clockwork →
      s.clockwork.Step now action s'.clockwork := by
    intro action huntimed heq
    rw [heq]
    exact .other huntimed
  cases action with
  | beginCycle port =>
      simp only [step] at h
      exact hother rfl (step_monitor_clockwork h)
  | answer port i result =>
      simp only [step] at h
      exact hother rfl (step_monitor_clockwork h)
  | crash port i error =>
      simp only [step] at h
      exact hother rfl (step_monitor_clockwork h)
  | finishCycle port =>
      obtain ⟨lane, m, backends, shown, hlane, -, rfl⟩ := finish_cycle_iff.mp ⟨effects, h⟩
      exact hother rfl (clockwork_with_lane _ hlane rfl)
  | publish port =>
      simp only [step] at h
      exact hother rfl (step_monitor_clockwork h)
  | takeElection port =>
      obtain ⟨lane, e, m, hlane, -, -, rfl⟩ := take_election_iff.mp ⟨effects, h⟩
      exact hother rfl (clockwork_with_lane _ hlane (lane.runner.begin_change_timing _ _))
  | takeTraffic port => exact hother rfl (take_traffic_clockwork h)
  | stepRunner port pick =>
      obtain ⟨lane, runner, backends, shown, hlane, hstep, rfl⟩ := step_runner_iff.mp ⟨effects, h⟩
      exact hother rfl (clockwork_with_lane _ hlane (Runner.step_change_timing hstep))
  | trackElection =>
      obtain ⟨-, e, m, -, rfl⟩ := track_election_iff.mp ⟨effects, h⟩
      exact hother rfl (clockwork_eq rfl rfl fun q => by cases q <;> rfl)
  | followElection =>
      obtain ⟨-, e, m, -, rfl⟩ := follow_election_iff.mp ⟨effects, h⟩
      exact hother rfl (clockwork_eq rfl rfl fun q => by cases q <;> rfl)
  | report => exact report_clockwork h
  | toggle enabled note =>
      obtain ⟨rfl, -⟩ := Prod.mk.inj (Option.some.inj h)
      exact hother rfl rfl
  | stepToggle =>
      obtain ⟨⟨cluster, shown⟩, -, heq⟩ := Option.map_eq_some_iff.mp h
      obtain ⟨rfl, -⟩ := Prod.mk.inj heq
      exact hother rfl rfl
  | connect port client =>
      obtain ⟨lane, -, -, ⟨-, rfl⟩ | ⟨i, -, rfl⟩⟩ := connect_iff.mp ⟨effects, h⟩
      · exact hother rfl rfl
      · exact hother rfl (clockwork_eq rfl rfl fun q => by cases q <;> rfl)
  | endDial n result =>
      obtain ⟨c, -, h⟩ := Option.bind_eq_some_iff.mp h
      exact hother rfl (step_backend_clockwork h)
  | stepCall n =>
      obtain ⟨c, -, h⟩ := Option.bind_eq_some_iff.mp h
      exact hother rfl (step_backend_clockwork h)
  | clientEvent n event =>
      simp only [step] at h
      exact hother rfl (step_backend_clockwork h)
  | serverEvent n event =>
      simp only [step] at h
      exact hother rfl (step_backend_clockwork h)
  | requestShutdown =>
      obtain ⟨rfl, -⟩ := Prod.mk.inj (Option.some.inj h)
      exact hother rfl rfl
  | stopMonitor port =>
      obtain ⟨-, h⟩ := Option.ite_none_right_eq_some.mp h
      exact hother rfl (step_monitor_clockwork h)
  | stopLogger =>
      obtain ⟨-, h⟩ := Option.ite_none_right_eq_some.mp h
      exact stop_logger_clockwork h
  | stopFollowing =>
      obtain ⟨-, h⟩ := Option.ite_none_right_eq_some.mp h
      obtain ⟨-, h⟩ := Option.ite_none_right_eq_some.mp h
      obtain ⟨rfl, -⟩ := Prod.mk.inj (Option.some.inj h)
      exact hother rfl (clockwork_eq rfl rfl fun q => by cases q <;> rfl)
  | drain port =>
      obtain ⟨-, h⟩ := Option.ite_none_right_eq_some.mp h
      exact drain_clockwork h
  | stopRunner port => exact stop_runner_clockwork h

/-! ## What one step makes fail -/

variable {t t' : Clockwork}

/-- A runner has had its delay before, and it fails only when it is told to stop. -/
theorem Clockwork.Step.runner_failed_iff (h : t.Step now action t') {port : ProxyPort}
    {delay : Duration} {phase' : Runner.Phase} (hphase' : t'.runner? port = some (delay, phase')) :
    ∃ phase, t.runner? port = some (delay, phase) ∧
      (phase' = .failed ↔
        phase = .failed ∨ action = .drain port ∧ Moment.horizon ≤ now + delay.nanos) := by
  have hset : ∀ (q : ProxyPort) (timing : Duration × Runner.Phase), q ≠ port →
      (t.setRunner q timing).runner? port = t.runner? port := fun q timing hq =>
    if_neg (Ne.symm hq)
  have hown : ∀ timing, (t.setRunner port timing).runner? port = some timing := fun timing =>
    if_pos rfl
  cases h with
  | report hdue => exact ⟨phase', hphase', by simp⟩
  | stopLogger hdue => exact ⟨phase', hphase', by simp⟩
  | @drain q own hserving =>
      by_cases hq : q = port
      · subst q
        obtain ⟨rfl, rfl⟩ := Prod.mk.inj (Option.some.inj ((hown _).symm.trans hphase'))
        exact ⟨.serving, hserving, by simp [Runner.Phase.heed_eq_failed_iff]⟩
      · exact ⟨phase', (hset q _ hq).symm.trans hphase', by simp [hq]⟩
  | @stopRunner q own deadline hdraining =>
      by_cases hq : q = port
      · subst q
        obtain ⟨rfl, rfl⟩ := Prod.mk.inj (Option.some.inj ((hown _).symm.trans hphase'))
        exact ⟨.draining deadline, hdraining, by simp⟩
      · exact ⟨phase', (hset q _ hq).symm.trans hphase', by simp⟩
  | other huntimed =>
      refine ⟨phase', hphase', ?_⟩
      constructor
      · exact .inl
      · rintro (hfailed | ⟨rfl, -⟩)
        · exact hfailed
        · cases huntimed

/-- The status logger keeps its interval, and it fails only when it reports. -/
theorem Clockwork.Step.logger_failed_iff (h : t.Step now action t') :
    t'.interval = t.interval ∧ ∀ reason, t'.logger = .failed reason ↔
      t.logger = .failed reason ∨
        action = .report ∧ StatusLogger.Phase.after t.interval now = .failed reason := by
  cases h with
  | report hdue => exact ⟨rfl, fun reason => by simp [hdue]⟩
  | stopLogger hdue => exact ⟨rfl, fun reason => by simp [hdue]⟩
  | drain hserving => exact ⟨rfl, fun reason => by simp [Clockwork.setRunner]⟩
  | stopRunner hdraining => exact ⟨rfl, fun reason => by simp [Clockwork.setRunner]⟩
  | other huntimed =>
      refine ⟨rfl, fun reason => ?_⟩
      constructor
      · exact .inl
      · rintro (hfailed | ⟨rfl, -⟩)
        · exact hfailed
        · cases huntimed

/-! ## What a run makes fail -/

/-- A run of the service. -/
def run (s : Service) (steps : List TimedAction) : Option Outcome :=
  runSteps (fun s step => s.step step.1 step.2.1 step.2.2) s steps

variable {last : Service} {steps : List TimedAction}

/-- An action is taken in a run with its first step or later. -/
theorem exists_mem_cons_iff {moment : Moment} {first : Action} {rest : List TimedAction}
    {p : Moment → Prop} :
    (∃ now time', (now, time', action) ∈ (moment, time, first) :: rest ∧ p now) ↔
      (first = action ∧ p moment) ∨ ∃ now time', (now, time', action) ∈ rest ∧ p now := by
  constructor
  · rintro ⟨now, time', hmem, hp⟩
    rcases List.mem_cons.mp hmem with heq | hlater
    · obtain ⟨rfl, hothers⟩ := Prod.mk.inj heq
      exact .inl ⟨(Prod.mk.inj hothers).2.symm, hp⟩
    · exact .inr ⟨now, time', hlater, hp⟩
  · rintro (⟨rfl, hp⟩ | ⟨now, time', hlater, hp⟩)
    · exact ⟨moment, time, List.mem_cons_self, hp⟩
    · exact ⟨now, time', List.mem_cons_of_mem _ hlater, hp⟩

/-- A runner has failed after a run if it had failed before or was told to stop at a moment whose
deadline the clock cannot show. -/
theorem run_runner_failed_iff (hrun : s.run steps = some (last, effects)) {port : ProxyPort}
    {lane : Lane} (hlane : last.lane? port = some lane) :
    ∃ phase, s.clockwork.runner? port = some (lane.runner.shutdownDelay, phase) ∧
      (lane.runner.phase = .failed ↔ phase = .failed ∨
        ∃ now time, (now, time, .drain port) ∈ steps ∧
          Moment.horizon ≤ now + lane.runner.shutdownDelay.nanos) := by
  induction steps generalizing s effects with
  | nil =>
      obtain ⟨rfl, -⟩ := Prod.mk.inj (Option.some.inj hrun)
      exact ⟨lane.runner.phase, runner?_of_lane hlane, by simp⟩
  | cons step rest ih =>
      obtain ⟨moment, time, action⟩ := step
      obtain ⟨next, first, others, hstep, hrest, -⟩ := run_steps_cons.mp hrun
      obtain ⟨between, hbetween, hothers⟩ := ih hrest
      obtain ⟨phase, hphase, hfirst⟩ := (step_clockwork hstep).runner_failed_iff hbetween
      refine ⟨phase, hphase, ?_⟩
      rw [hothers, hfirst, exists_mem_cons_iff, or_assoc]

/-- The status logger has failed after a run if it had failed before or reported at a moment after
which it cannot wait for the next report. -/
theorem run_logger_failed_iff (hrun : s.run steps = some (last, effects)) (reason : String) :
    last.clockwork.logger = .failed reason ↔ s.clockwork.logger = .failed reason ∨
      ∃ now time, (now, time, .report) ∈ steps ∧
        StatusLogger.Phase.after s.clockwork.interval now = .failed reason := by
  induction steps generalizing s effects with
  | nil =>
      obtain ⟨rfl, -⟩ := Prod.mk.inj (Option.some.inj hrun)
      simp
  | cons step rest ih =>
      obtain ⟨moment, time, action⟩ := step
      obtain ⟨next, first, others, hstep, hrest, -⟩ := run_steps_cons.mp hrun
      obtain ⟨hinterval, hphase⟩ := (step_clockwork hstep).logger_failed_iff
      rw [ih hrest, hphase, hinterval, exists_mem_cons_iff, or_assoc]

/-! ## Valid settings -/

/-- The clockwork of a service that starts. -/
theorem create_clockwork (c : Config) (now : Moment) :
    (create c now).clockwork =
      { interval := c.statusLogInterval
        logger := .after c.statusLogInterval now
        runner? := fun
          | .active => some (c.shutdownDelay, .serving)
          | .inactive => c.proxy.inactivePort.map fun _ => (.zero, .serving) } := by
  rw [create, clockwork_leave_failed_logger]
  simp only [clockwork, StatusLogger.start, Clockwork.mk.injEq, true_and]
  funext q
  cases q with
  | active => rfl
  | inactive =>
      show (c.proxy.inactivePort.map fun _ => createLane c now .inactive).map _ = _
      rw [Option.map_map]
      rfl

/-- There is time between the status reports. -/
theorem status_log_interval_ne_zero {c : Config} (hvalid : c.validate = .ok ()) :
    c.statusLogInterval.nanos ≠ 0 := by
  have hsetting : c.statusLogIntervalSecs.toNat ≠ 0 := fun hzero =>
    Config.interval_ne_zero hvalid (UInt64.toNat_inj.mp hzero)
  exact Nat.mul_ne_zero hsetting (by decide)

/-- What makes a part of a service with a valid configuration fail while the clock can show the
moments of its steps. The status logger fails at once if the clock cannot show its first deadline,
and never for want of time between its reports; the runner of the active port fails exactly if it is
told to stop at a moment at which the clock cannot show its deadline; that of the inactive port
never fails. -/
theorem timing_failures {c : Config} (hvalid : c.validate = .ok ()) {start : Moment}
    (hrun : (create c start).run steps = some (last, effects))
    (hclock : ∀ step ∈ steps, step.1 < Moment.horizon) :
    (Moment.horizon ≤ start + c.statusLogInterval.nanos →
      last.logger.phase = .failed Moment.overflowMessage) ∧
    (∀ reason, last.logger.phase = .failed reason → reason = Moment.overflowMessage ∧
      (Moment.horizon ≤ start + c.statusLogInterval.nanos ∨ ∃ now time,
        (now, time, .report) ∈ steps ∧ Moment.horizon ≤ now + c.statusLogInterval.nanos)) ∧
    (∀ lane, last.lane? .active = some lane → (lane.runner.phase = .failed ↔ ∃ now time,
      (now, time, .drain .active) ∈ steps ∧ Moment.horizon ≤ now + c.shutdownDelay.nanos)) ∧
    (∀ lane, last.lane? .inactive = some lane → lane.runner.phase ≠ .failed) := by
  have hfailed : ∀ reason, last.logger.phase = .failed reason ↔
      (Moment.horizon ≤ start + c.statusLogInterval.nanos ∧ reason = Moment.overflowMessage) ∨
        ∃ now time, (now, time, .report) ∈ steps ∧
          Moment.horizon ≤ now + c.statusLogInterval.nanos ∧ reason = Moment.overflowMessage := by
    intro reason
    have hphase := run_logger_failed_iff hrun reason
    simp only [create_clockwork,
      StatusLogger.Phase.after_eq_failed_iff (status_log_interval_ne_zero hvalid)] at hphase
    exact hphase
  refine ⟨fun hle => ?_, fun reason hphase => ?_, fun lane hlane => ?_, fun lane hlane => ?_⟩
  · exact (hfailed _).mpr (.inl ⟨hle, rfl⟩)
  · rcases (hfailed reason).mp hphase with ⟨hle, hreason⟩ | ⟨now, time, hmem, hle, hreason⟩
    · exact ⟨hreason, .inl hle⟩
    · exact ⟨hreason, .inr ⟨now, time, hmem, hle⟩⟩
  · obtain ⟨phase, hphase, hiff⟩ := run_runner_failed_iff hrun hlane
    rw [create_clockwork] at hphase
    obtain ⟨hdelay, rfl⟩ := Prod.mk.inj (Option.some.inj hphase)
    rw [hiff, ← hdelay]
    simp
  · obtain ⟨phase, hphase, hiff⟩ := run_runner_failed_iff hrun hlane
    rw [create_clockwork] at hphase
    obtain ⟨port, -, htiming⟩ := Option.map_eq_some_iff.mp hphase
    obtain ⟨hdelay, rfl⟩ := Prod.mk.inj htiming
    rw [Ne, hiff, ← hdelay]
    rintro (hserving | ⟨now, time, hmem, hle⟩)
    · cases hserving
    · have hlt : now < Moment.horizon := hclock _ hmem
      simp only [Duration.zero, Nat.add_zero] at hle
      exact absurd hlt (Nat.not_lt.mpr hle)

/-- The configuration of one node with other settings for the shutdown and for the status reports.
-/
def withTiming (shutdownDelay statusLogInterval : UInt64) : Config :=
  { Config.oneNode with
    proxy := { Config.oneNode.proxy with shutdownDelaySeconds := shutdownDelay }
    statusLogIntervalSecs := statusLogInterval }

/-- Shutdown is requested at a moment, and both runners learn of it. -/
def shuttingDownAt (now : Moment) : List TimedAction :=
  [.requestShutdown, .drain .active, .drain .inactive].map fun action => (now, ⟨0, 0⟩, action)

/-- One second after the start the greatest number of seconds leads to the horizon. -/
theorem timing_failures_at_horizon :
    let c := withTiming 9223372036854775807 30
    c.validate = .ok () ∧ (∀ step ∈ shuttingDownAt 1000000000, step.1 < Moment.horizon) ∧
      ∃ s seen, (create c 0).run (shuttingDownAt 1000000000) = some (s, seen) ∧
        s.active.runner.phase = .failed ∧ ∀ reason, s.logger.phase ≠ .failed reason := by
  intro c
  have hvalid : c.validate = .ok () := (Config.validate_eq_ok_iff c).mpr (by decide +kernel)
  have hclock : ∀ step ∈ shuttingDownAt 1000000000, step.1 < Moment.horizon := by decide +kernel
  have hsome : ((create c 0).run (shuttingDownAt 1000000000)).isSome = true := by decide +kernel
  obtain ⟨⟨s, seen⟩, hrun⟩ := Option.isSome_iff_exists.mp hsome
  obtain ⟨-, hlogger, hactive, -⟩ := timing_failures hvalid hrun hclock
  refine ⟨hvalid, hclock, s, seen, hrun, (hactive _ rfl).mpr ?_, fun reason hfailed => ?_⟩
  · exact ⟨1000000000, ⟨0, 0⟩, by decide, by decide +kernel⟩
  · have hstart : ¬ Moment.horizon ≤ 0 + c.statusLogInterval.nanos := by decide +kernel
    have hnone : ∀ step ∈ shuttingDownAt 1000000000, step.2.2 ≠ .report := by decide +kernel
    rcases (hlogger reason hfailed).2 with hle | ⟨now, time, hmem, -⟩
    · exact hstart hle
    · exact hnone _ hmem rfl

/-- With the greatest numbers of seconds that a valid configuration can have, the status logger
fails when the service starts, and the runner of the active port when it is told to stop. -/
theorem timing_fails_of_greatest :
    let c := withTiming 18446744073709551615 18446744073709551615
    c.validate = .ok () ∧
      (create c 0).logger.phase = .failed Moment.overflowMessage ∧
      ∃ s seen, (create c 0).run (shuttingDownAt 0) = some (s, seen) ∧
        s.active.runner.phase = .failed := by
  intro c
  have hvalid : c.validate = .ok () := (Config.validate_eq_ok_iff c).mpr (by decide +kernel)
  have hlogger : (create c 0).logger.phase = .failed Moment.overflowMessage := by decide +kernel
  have hend : ((create c 0).run (shuttingDownAt 0)).any
      (fun outcome => outcome.1.active.runner.phase = .failed) = true := by decide +kernel
  obtain ⟨⟨s, seen⟩, hrun, hfailed⟩ := (Option.any_eq_true _ _).mp hend
  exact ⟨hvalid, hlogger, s, seen, hrun, of_decide_eq_true hfailed⟩

end Service

end GaleraProxy
