import GaleraProxy.Proofs.Runner.Change
import GaleraProxy.Service.Step

/-!
# When the parts of the service can take their steps

For each operation of a lane and of those who follow the active lane: when it can be taken, and what
it leads to.
-/

namespace GaleraProxy.Service

variable {s s' : Service} {port : ProxyPort}

/-- The service with other backends and another lane for a port. -/
def withLane (s : Service) (port : ProxyPort) (lane : Lane) (backends : List Backend) : Service :=
  { s.setLane port lane with backends }

theorem lane?_with_lane (s : Service) (port q : ProxyPort) (lane : Lane)
    (backends : List Backend) :
    (s.withLane port lane backends).lane? q = if q = port then some lane else s.lane? q := by
  cases port <;> cases q <;> rfl

@[simp] theorem with_lane_backends (s : Service) (port : ProxyPort) (lane : Lane)
    (backends : List Backend) : (s.withLane port lane backends).backends = backends :=
  rfl

@[simp] theorem with_lane_clients (s : Service) (port : ProxyPort) (lane : Lane)
    (backends : List Backend) : (s.withLane port lane backends).clients = s.clients := by
  cases port <;> rfl

@[simp] theorem with_lane_logger (s : Service) (port : ProxyPort) (lane : Lane)
    (backends : List Backend) : (s.withLane port lane backends).logger = s.logger := by
  cases port <;> rfl

theorem step_monitor_iff {f : Monitor → Option (Monitor × List Effect)} :
    (∃ effects, s.stepMonitor port f = some (s', effects)) ↔
      ∃ lane m effects, s.lane? port = some lane ∧ f lane.monitor = some (m, effects) ∧
        s' = s.withLane port { lane with monitor := m } s.backends := by
  constructor
  · rintro ⟨effects, h⟩
    obtain ⟨lane, hlane, h⟩ := Option.bind_eq_some_iff.mp h
    obtain ⟨⟨m, shown⟩, hm, h⟩ := Option.bind_eq_some_iff.mp h
    obtain ⟨rfl, -⟩ := Prod.mk.inj (Option.some.inj h)
    exact ⟨lane, m, shown, hlane, hm, by cases port <;> rfl⟩
  · rintro ⟨lane, m, effects, hlane, hm, rfl⟩
    refine ⟨shown port.monitor effects, ?_⟩
    have hsame : s.withLane port { lane with monitor := m } s.backends =
        s.setLane port { lane with monitor := m } := by
      cases port <;> rfl
    simp [stepMonitor, hlane, hm, hsame]

theorem finish_cycle_iff {now : Moment} :
    (∃ effects, s.finishCycle port now = some (s', effects)) ↔
      ∃ lane m backends effects, s.lane? port = some lane ∧
        lane.monitor.finishCycle s.backends now = some (m, backends, effects) ∧
        s' = s.withLane port { lane with monitor := m } backends := by
  constructor
  · rintro ⟨effects, h⟩
    obtain ⟨lane, hlane, h⟩ := Option.bind_eq_some_iff.mp h
    obtain ⟨⟨m, backends, shown⟩, hm, h⟩ := Option.bind_eq_some_iff.mp h
    obtain ⟨rfl, -⟩ := Prod.mk.inj (Option.some.inj h)
    exact ⟨lane, m, backends, shown, hlane, hm, rfl⟩
  · rintro ⟨lane, m, backends, effects, hlane, hm, rfl⟩
    exact ⟨shown port.monitor effects, by simp [finishCycle, hlane, hm, withLane]⟩

theorem take_election_iff :
    (∃ effects, s.takeElection port = some (s', effects)) ↔
      ∃ lane e m, s.lane? port = some lane ∧ lane.runner.isReady = true ∧
        lane.monitor.takeElection runnerPlace = some (e, m) ∧
        s' = s.withLane port ⟨m, (lane.runner.beginChange s.backends (.election e)).1⟩
          (lane.runner.beginChange s.backends (.election e)).2.1 := by
  constructor
  · rintro ⟨effects, h⟩
    obtain ⟨lane, hlane, h⟩ := Option.bind_eq_some_iff.mp h
    simp only [Bool.not_eq_eq_eq_not, Bool.not_true] at h
    split at h
    · cases h
    · rename_i hready
      obtain ⟨⟨e, m⟩, hm, h⟩ := Option.bind_eq_some_iff.mp h
      obtain ⟨rfl, -⟩ := Prod.mk.inj (Option.some.inj h)
      exact ⟨lane, e, m, hlane, Bool.not_eq_false _ ▸ hready, hm, rfl⟩
  · rintro ⟨lane, e, m, hlane, hready, hm, rfl⟩
    exact ⟨shown port.proxy (lane.runner.beginChange s.backends (.election e)).2.2,
      by simp [takeElection, hlane, hready, hm, withLane]⟩

theorem step_runner_iff {pick : Nat} :
    (∃ effects, s.stepRunner port pick = some (s', effects)) ↔
      ∃ lane runner backends effects, s.lane? port = some lane ∧
        lane.runner.stepChange s.backends pick = some (runner, backends, effects) ∧
        s' = s.withLane port { lane with runner } backends := by
  constructor
  · rintro ⟨effects, h⟩
    obtain ⟨lane, hlane, h⟩ := Option.bind_eq_some_iff.mp h
    obtain ⟨⟨runner, backends, shown⟩, hstep, h⟩ := Option.bind_eq_some_iff.mp h
    obtain ⟨rfl, -⟩ := Prod.mk.inj (Option.some.inj h)
    exact ⟨lane, runner, backends, shown, hlane, hstep, rfl⟩
  · rintro ⟨lane, runner, backends, effects, hlane, hstep, rfl⟩
    exact ⟨shown port.proxy effects, by simp [stepRunner, hlane, hstep, withLane]⟩

/-- A runner that is at a sever goes on with it, or takes in the change once it has returned. -/
theorem step_runner_at {pick i k : Nat} {lane : Lane} {change : Runner.Change} {b : Backend}
    (hlane : s.lane? port = some lane) (htask : lane.runner.task = .severing i k change)
    (hb : s.backends[i]? = some b) :
    (∃ effects, s.stepRunner port pick = some (s', effects)) ↔
      b.severs[k]? = some .returned ∧ s' = s.withLane port
          { lane with runner := (lane.runner.applyChange s.backends change).1 } s.backends ∨
        ∃ next, (∃ effects, b.stepSever k pick = some (next, effects)) ∧
          s' = s.withLane port lane (s.backends.set i next) := by
  rw [step_runner_iff]
  constructor
  · rintro ⟨own, runner, backends, effects, hown, hstep, rfl⟩
    obtain rfl := Option.some.inj (hlane.symm.trans hown)
    obtain ⟨j, n, change', d, htask', hd, hcases⟩ := Runner.step_change_cases hstep
    obtain ⟨rfl, rfl, rfl⟩ := Runner.Task.severing.inj (htask.symm.trans htask')
    obtain rfl := Option.some.inj (hb.symm.trans hd)
    rcases hcases with ⟨hreturned, rfl, rfl⟩ | ⟨next, shown, hnext, rfl, rfl⟩
    · exact .inl ⟨hreturned, rfl⟩
    · exact .inr ⟨next, ⟨shown, hnext⟩, rfl⟩
  · rintro (⟨hreturned, rfl⟩ | ⟨next, ⟨effects, hnext⟩, rfl⟩)
    · exact ⟨lane, _, s.backends, (lane.runner.applyChange s.backends change).2, hlane,
        by simp [Runner.stepChange, htask, hb, hreturned], rfl⟩
    · have hopen : b.severs[k]? ≠ some .returned := fun hreturned => by
        simp [Backend.stepSever, hreturned] at hnext
      exact ⟨lane, lane.runner, _, effects, hlane,
        by simp [Runner.stepChange, htask, hb, hopen, hnext], rfl⟩

theorem connect_iff {client : Duplex} :
    (∃ effects, s.connect port client = some (s', effects)) ↔
      ∃ lane, s.lane? port = some lane ∧ lane.runner.isReady = true ∧
        (lane.runner.route = none ∧ s' = { s with turnedAway := s.turnedAway ++ [client.drop] } ∨
          ∃ i, lane.runner.route = some i ∧ s' = { s with
            backends := lane.runner.accept s.backends client
            clients := s.clients ++
              [⟨port, i, (s.backends[i]?.map fun b => b.calls.length).getD 0⟩] }) := by
  constructor
  · rintro ⟨effects, h⟩
    obtain ⟨lane, hlane, h⟩ := Option.bind_eq_some_iff.mp h
    simp only [Bool.not_eq_eq_eq_not, Bool.not_true] at h
    split at h
    · cases h
    · rename_i hready
      refine ⟨lane, hlane, Bool.not_eq_false _ ▸ hready, ?_⟩
      split at h
      · obtain ⟨rfl, -⟩ := Prod.mk.inj (Option.some.inj h)
        exact .inl ⟨‹_›, rfl⟩
      · rename_i i hroute
        obtain ⟨rfl, -⟩ := Prod.mk.inj (Option.some.inj h)
        exact .inr ⟨i, hroute, rfl⟩
  · rintro ⟨lane, hlane, hready, ⟨hroute, rfl⟩ | ⟨i, hroute, rfl⟩⟩
    · exact ⟨[], by simp [connect, hlane, hready, hroute]⟩
    · exact ⟨[], by simp [connect, hlane, hready, hroute]⟩

theorem track_election_iff {time : Timestamp} :
    (∃ effects, s.trackElection time = some (s', effects)) ↔
      s.logger.isRunning = true ∧ ∃ e m,
        s.active.monitor.takeElection loggerPlace = some (e, m) ∧
        s' = { s with
          active := { s.active with monitor := m }
          logger := s.logger.observe s.backends e time } := by
  constructor
  · rintro ⟨effects, h⟩
    unfold trackElection at h
    split at h
    · cases h
    · rename_i hrunning
      obtain ⟨⟨e, m⟩, hm, h⟩ := Option.bind_eq_some_iff.mp h
      obtain ⟨rfl, -⟩ := Prod.mk.inj (Option.some.inj h)
      exact ⟨by simpa using hrunning, e, m, hm, rfl⟩
  · rintro ⟨hrunning, e, m, hm, rfl⟩
    exact ⟨[], by simp [trackElection, hrunning, hm]⟩

theorem follow_election_iff :
    (∃ effects, s.followElection = some (s', effects)) ↔
      s.following = true ∧ ∃ e m,
        s.active.monitor.takeElection clusterPlace = some (e, m) ∧
        s' = { s with
          active := { s.active with monitor := m }
          cluster := s.cluster.setActive (s.asActive e) } := by
  constructor
  · rintro ⟨effects, h⟩
    unfold followElection at h
    split at h
    · cases h
    · rename_i hfollowing
      obtain ⟨⟨e, m⟩, hm, h⟩ := Option.bind_eq_some_iff.mp h
      obtain ⟨rfl, -⟩ := Prod.mk.inj (Option.some.inj h)
      exact ⟨by simpa using hfollowing, e, m, hm, rfl⟩
  · rintro ⟨hfollowing, e, m, hm, rfl⟩
    exact ⟨[], by simp [followElection, hfollowing, hm]⟩

theorem report_iff {now : Moment} :
    (∃ effects, s.report now = some (s', effects)) ↔
      ∃ due, s.logger.phase = .waiting due ∧ due ≤ now ∧
        s' = leaveFailedLogger { s with
          logger := { s.logger with phase := .after s.logger.interval now } } := by
  constructor
  · rintro ⟨effects, h⟩
    obtain ⟨due, hdue, h⟩ := Option.bind_eq_some_iff.mp h
    split at h
    · rename_i hle
      obtain ⟨rfl, -⟩ := Prod.mk.inj (Option.some.inj h)
      unfold StatusLogger.due? at hdue
      split at hdue
      · rename_i own hphase
        obtain rfl := Option.some.inj hdue
        exact ⟨own, hphase, hle, by simp [hle]⟩
      · cases hdue
      · cases hdue
    · cases h
  · rintro ⟨due, hphase, hle, rfl⟩
    exact ⟨_, by simp [report, StatusLogger.due?, StatusLogger.tick, hphase, hle]; rfl⟩

end GaleraProxy.Service
