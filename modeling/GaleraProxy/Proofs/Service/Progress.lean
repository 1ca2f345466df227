import GaleraProxy.Proofs.Backend.Motion
import GaleraProxy.Proofs.Channel
import GaleraProxy.Proofs.Service.Operations

/-!
# What a step of the service touches

Before shutdown a step touches one lane at most, besides what the lanes share. `Scope.Step` lists
all there is, and `step_progress` says that every step of a running service is one of them.
-/

namespace GaleraProxy.Service

/-- What a step may touch: a lane, and what the lanes share. -/
structure Scope where
  lane : Lane
  backends : List Backend
  cluster : Cluster
  clients : List Client

/-- Whether a step is one of a call. -/
def Action.isOfCall : Action → Bool
  | .endDial .. | .stepCall _ | .clientEvent .. | .serverEvent .. => true
  | _ => false

/-- Everything that a step can do to the lane of a port and to what the lanes share. -/
inductive Scope.Step (port : ProxyPort) (p : Scope) : Action → Scope → Prop where
  | beginCycle {m : Monitor} {now : Nat} (h : p.lane.monitor.beginCycle p.backends now = some m) :
      Step port p (.beginCycle port) { p with lane := { p.lane with monitor := m } }
  | answer (i : Nat) (result : Except ProxyError AgentReply) :
      Step port p (.answer port i result)
        { p with lane := { p.lane with monitor := p.lane.monitor.receive i result } }
  | crash (i : Nat) (error : String) :
      Step port p (.crash port i error)
        { p with lane := { p.lane with monitor := (p.lane.monitor.crash i error).1 } }
  | finishCycle {m : Monitor} {backends : List Backend} {effects : List Effect} {now : Nat}
      (h : p.lane.monitor.finishCycle p.backends now = some (m, backends, effects)) :
      Step port p (.finishCycle port) { p with lane := { p.lane with monitor := m }, backends }
  | publish {m : Monitor} {now : Nat} (h : p.lane.monitor.stepPublish now = some m) :
      Step port p (.publish port) { p with lane := { p.lane with monitor := m } }
  | takeElection {e : Elected} {m : Monitor} (hready : p.lane.runner.isReady = true)
      (h : p.lane.monitor.takeElection runnerPlace = some (e, m)) :
      Step port p (.takeElection port)
        { p with
          lane := ⟨m, (p.lane.runner.beginChange p.backends (.election e)).1⟩
          backends := (p.lane.runner.beginChange p.backends (.election e)).2.1 }
  | takeTraffic {enabled : Bool} {c : Channel Bool} (hready : p.lane.runner.isReady = true)
      (hc : p.cluster.subscribers[port.trafficPlace]? = some c)
      (hwaiting : c.waiting = some enabled) :
      Step port p (.takeTraffic port)
        { p with
          lane :=
            { p.lane with runner := (p.lane.runner.beginChange p.backends (.traffic enabled)).1 }
          backends := (p.lane.runner.beginChange p.backends (.traffic enabled)).2.1
          cluster := p.cluster.setSubscriber port.trafficPlace { c with waiting := none } }
  | stepRunner {runner : Runner} {backends : List Backend} {effects : List Effect} (pick : Nat)
      (h : p.lane.runner.stepChange p.backends pick = some (runner, backends, effects)) :
      Step port p (.stepRunner port pick) { p with lane := { p.lane with runner }, backends }
  | trackElection {e : Elected} {m : Monitor} (hport : port = .active)
      (h : p.lane.monitor.takeElection loggerPlace = some (e, m)) :
      Step port p .trackElection { p with lane := { p.lane with monitor := m } }
  | followElection {e : Elected} {m : Monitor} (hport : port = .active)
      (h : p.lane.monitor.takeElection clusterPlace = some (e, m)) :
      Step port p .followElection
        { p with
          lane := { p.lane with monitor := m }
          cluster := p.cluster.setActive (e.bind fun i => p.backends[i]?.map Backend.asActive) }
  | report (hport : port = .active) : Step port p .report p
  | reportAndFail (hport : port = .active) :
      Step port p .report
        { p with
          lane := { p.lane with monitor := p.lane.monitor.dropSubscriber loggerPlace } }
  | toggle (enabled : Bool) (note : String) :
      Step port p (.toggle enabled note) { p with cluster := p.cluster.beginToggle enabled note }
  | stepToggle {cluster : Cluster} {effects : List Effect} {time : Timestamp}
      (h : p.cluster.step time = some (cluster, effects)) :
      Step port p .stepToggle { p with cluster }
  | turnAway (client : Duplex) (h : p.lane.runner.route = none) :
      Step port p (.connect port client) p
  | connect (client : Duplex) {i : Nat} (hready : p.lane.runner.isReady = true)
      (hroute : p.lane.runner.route = some i) :
      Step port p (.connect port client)
        { p with
          backends := p.lane.runner.accept p.backends client
          clients := p.clients ++
            [⟨port, i, (p.backends[i]?.map fun b => b.calls.length).getD 0⟩] }
  | ofCall {action : Action} {backends : List Backend} (hcall : action.isOfCall = true)
      (h : Backend.Aside p.backends backends) : Step port p action { p with backends }

/-- Shutdown has not been requested. -/
structure IsRunning (s : Service) : Prop where
  stopping : s.stopping = false
  following : s.following = true
  serving : ∀ {port : ProxyPort} {lane : Lane}, s.lane? port = some lane →
    lane.runner.phase = .serving

/-- The lane of a port of a service, with what the lanes share. -/
def scope (s : Service) (lane : Lane) : Scope := ⟨lane, s.backends, s.cluster, s.clients⟩

/-- A step touches the lane of a port and what the lanes share. -/
inductive Progress (s : Service) (action : Action) (s' : Service) : Prop where
  | intro (port : ProxyPort) (lane lane' : Lane) (hlane : s.lane? port = some lane)
      (hlanes : ∀ q, s'.lane? q = if q = port then some lane' else s.lane? q)
      (hstopping : s'.stopping = s.stopping) (hfollowing : s'.following = s.following)
      (hstep : (s.scope lane).Step port action (s'.scope lane'))

variable {s s' : Service}

theorem lane?_set_self {port : ProxyPort} {lane : Lane} (h : s.lane? port = some lane)
    (q : ProxyPort) : s.lane? q = if q = port then some lane else s.lane? q := by
  split
  · subst q
    exact h
  · rfl

/-- A step of the lane of a port, which may change the backends. -/
theorem progress_with_lane {port : ProxyPort} {action : Action} {lane lane' : Lane}
    {backends : List Backend} (hlane : s.lane? port = some lane)
    (hstep : (s.scope lane).Step port action ⟨lane', backends, s.cluster, s.clients⟩) :
    Progress s action (s.withLane port lane' backends) := by
  refine ⟨port, lane, lane', hlane, fun q => s.lane?_with_lane port q lane' backends, ?_, ?_, ?_⟩
  · cases port <;> rfl
  · cases port <;> rfl
  · cases port <;> exact hstep

/-! ## Each kind of step -/

theorem step_monitor_progress {port : ProxyPort} {action : Action}
    {f : Monitor → Option (Monitor × List Effect)} {effects : List (Component × Effect)}
    (h : s.stepMonitor port f = some (s', effects))
    (hstep : ∀ {lane : Lane} {m : Monitor} {shown : List Effect}, f lane.monitor = some (m, shown) →
      (s.scope lane).Step port action { s.scope lane with lane := { lane with monitor := m } }) :
    Progress s action s' := by
  obtain ⟨lane, m, shown, hlane, hm, rfl⟩ := step_monitor_iff.mp ⟨effects, h⟩
  exact progress_with_lane hlane (hstep hm)

theorem step_backend_progress {n : Nat} {action : Action} (hcall : action.isOfCall = true)
    {f : Backend → Nat → Option (Backend × List (Component × Effect))}
    {effects : List (Component × Effect)} (h : s.stepBackend n f = some (s', effects))
    (hown : ∀ {b b' : Backend} {i : Nat} {shown : List (Component × Effect)},
      f b i = some (b', shown) → ∃ own shown', Backend.Action.isOwn own = true ∧
        b.step own = some (b', shown')) : Progress s action s' := by
  obtain ⟨c, -, h⟩ := Option.bind_eq_some_iff.mp h
  obtain ⟨b, hb, h⟩ := Option.bind_eq_some_iff.mp h
  obtain ⟨⟨b', shown⟩, hb', h⟩ := Option.bind_eq_some_iff.mp h
  obtain ⟨rfl, -⟩ := Prod.mk.inj (Option.some.inj h)
  obtain ⟨own, shown', hisOwn, hstep⟩ := hown hb'
  -- a call belongs to no lane, so take one that stays as it is
  exact ⟨.active, s.active, s.active, rfl, lane?_set_self rfl, rfl, rfl,
    .ofCall hcall (.set hb hisOwn hstep)⟩

theorem finish_cycle_progress {port : ProxyPort} {now : Moment}
    {effects : List (Component × Effect)} (h : s.finishCycle port now = some (s', effects)) :
    Progress s (.finishCycle port) s' := by
  obtain ⟨lane, m, backends, shown, hlane, hm, rfl⟩ := finish_cycle_iff.mp ⟨effects, h⟩
  exact progress_with_lane hlane (.finishCycle hm)

theorem take_election_progress {port : ProxyPort} {effects : List (Component × Effect)}
    (h : s.takeElection port = some (s', effects)) : Progress s (.takeElection port) s' := by
  obtain ⟨lane, e, m, hlane, hready, hm, rfl⟩ := take_election_iff.mp ⟨effects, h⟩
  exact progress_with_lane hlane (.takeElection hready hm)

theorem take_traffic_progress {port : ProxyPort} {effects : List (Component × Effect)}
    (h : s.takeTraffic port = some (s', effects)) : Progress s (.takeTraffic port) s' := by
  obtain ⟨lane, hlane, h⟩ := Option.bind_eq_some_iff.mp h
  simp only [Bool.not_eq_eq_eq_not, Bool.not_true] at h
  split at h
  · cases h
  · rename_i hready
    split at h
    · rename_i enabled channel hreceive
      obtain ⟨rfl, -⟩ := Prod.mk.inj (Option.some.inj h)
      obtain ⟨c, hc, hreceive⟩ := Option.map_eq_some_iff.mp hreceive
      obtain ⟨hwaiting, rfl⟩ := Channel.receive_value hreceive
      have hc' := (Option.filter_eq_some_iff.mp hc).1
      let runner := (lane.runner.beginChange s.backends (.traffic enabled)).1
      refine ⟨port, lane, { lane with runner }, hlane, fun q => ?_, ?_, ?_, ?_⟩
      · cases port <;> cases q <;> rfl
      · cases port <;> rfl
      · cases port <;> rfl
      · cases port <;> exact .takeTraffic (Bool.not_eq_false _ ▸ hready) hc' hwaiting
    · cases h

theorem step_runner_progress {port : ProxyPort} {pick : Nat} {effects : List (Component × Effect)}
    (h : s.stepRunner port pick = some (s', effects)) : Progress s (.stepRunner port pick) s' := by
  obtain ⟨lane, runner, backends, shown, hlane, hstep, rfl⟩ := step_runner_iff.mp ⟨effects, h⟩
  exact progress_with_lane hlane (.stepRunner pick hstep)

/-- The active lane with another monitor. -/
theorem lane?_active_monitor (s : Service) (m : Monitor) (q : ProxyPort) :
    lane? { s with active := { s.active with monitor := m } } q =
      if q = .active then some { s.active with monitor := m } else s.lane? q := by
  cases q <;> rfl

theorem track_election_progress {time : Timestamp} {effects : List (Component × Effect)}
    (h : s.trackElection time = some (s', effects)) : Progress s .trackElection s' := by
  obtain ⟨-, e, m, hm, rfl⟩ := track_election_iff.mp ⟨effects, h⟩
  exact ⟨.active, s.active, { s.active with monitor := m }, rfl, s.lane?_active_monitor m, rfl,
    rfl, .trackElection rfl hm⟩

theorem follow_election_progress {effects : List (Component × Effect)}
    (h : s.followElection = some (s', effects)) : Progress s .followElection s' := by
  obtain ⟨-, e, m, hm, rfl⟩ := follow_election_iff.mp ⟨effects, h⟩
  exact ⟨.active, s.active, { s.active with monitor := m }, rfl, s.lane?_active_monitor m, rfl,
    rfl, .followElection rfl hm⟩

theorem leave_failed_logger_cases (s : Service) : s.leaveFailedLogger = s ∨
    s.leaveFailedLogger =
      { s with
        active := { s.active with monitor := s.active.monitor.dropSubscriber loggerPlace } } := by
  unfold leaveFailedLogger
  split
  · exact .inl rfl
  · exact .inr rfl

/-- A logger that leaves its monitor touches the active lane only. -/
theorem leave_failed_logger_progress (s : Service) : Progress s .report s.leaveFailedLogger := by
  rcases leave_failed_logger_cases s with heq | heq
  · rw [heq]
    exact ⟨.active, s.active, s.active, rfl, lane?_set_self rfl, rfl, rfl, .report rfl⟩
  · rw [heq]
    exact ⟨.active, s.active, _, rfl, s.lane?_active_monitor _, rfl, rfl, .reportAndFail rfl⟩

theorem report_progress {now : Moment} {effects : List (Component × Effect)}
    (h : s.report now = some (s', effects)) : Progress s .report s' := by
  obtain ⟨due, -, -, rfl⟩ := report_iff.mp ⟨effects, h⟩
  rcases leave_failed_logger_cases { s with logger := _ } with heq | heq
  · rw [heq]
    exact ⟨.active, s.active, s.active, rfl, lane?_set_self rfl, rfl, rfl, .report rfl⟩
  · rw [heq]
    exact ⟨.active, s.active, _, rfl, s.lane?_active_monitor _, rfl, rfl, .reportAndFail rfl⟩

theorem connect_progress {port : ProxyPort} {client : Duplex}
    {effects : List (Component × Effect)} (h : s.connect port client = some (s', effects)) :
    Progress s (.connect port client) s' := by
  obtain ⟨lane, hlane, hready, ⟨hroute, rfl⟩ | ⟨i, hroute, rfl⟩⟩ := connect_iff.mp ⟨effects, h⟩
  · exact ⟨port, lane, lane, hlane, lane?_set_self hlane, rfl, rfl, .turnAway client hroute⟩
  · exact ⟨port, lane, lane, hlane, lane?_set_self hlane, rfl, rfl,
      .connect client hready hroute⟩

theorem end_dial_progress {n : Nat} {result : Except String Duplex}
    {effects : List (Component × Effect)} (h : s.endDial n result = some (s', effects)) :
    Progress s (.endDial n result) s' := by
  obtain ⟨c, -, h⟩ := Option.bind_eq_some_iff.mp h
  refine step_backend_progress rfl h fun {b b' i shown} hb' => ?_
  split at hb'
  · obtain ⟨rfl, -⟩ := Prod.mk.inj (Option.some.inj hb')
    exact ⟨.endDial i result, [], rfl, rfl⟩
  · cases hb'

theorem step_call_progress {now : Moment} {time : Timestamp} {n : Nat}
    {effects : List (Component × Effect)} (h : s.step now time (.stepCall n) = some (s', effects)) :
    Progress s (.stepCall n) s' := by
  obtain ⟨c, -, h⟩ := Option.bind_eq_some_iff.mp h
  refine step_backend_progress rfl h fun {b b' i shown} hb' => ?_
  obtain ⟨⟨next, shown'⟩, hnext, heq⟩ := Option.map_eq_some_iff.mp hb'
  obtain ⟨rfl, -⟩ := Prod.mk.inj heq
  exact ⟨.stepCall i, shown', rfl, hnext⟩

/-- A part stops only once shutdown was requested. -/
theorem IsRunning.when_stopping (h : s.IsRunning) (outcome : Option Outcome) :
    s.whenStopping outcome = none := by
  simp [whenStopping, h.stopping]

/-- A runner stops only once it has been told so. -/
theorem IsRunning.stop_runner (h : s.IsRunning) (port : ProxyPort) (now : Moment) :
    s.stopRunner port now = none := by
  unfold stopRunner
  cases hlane : s.lane? port with
  | none => rfl
  | some lane =>
      have hdeadline : lane.runner.deadline? = none := by
        rw [Runner.deadline?, h.serving hlane]
      simp [hdeadline]

/-- Every step before shutdown touches one lane at most. -/
theorem step_progress (hrunning : s.IsRunning) {now : Moment} {time : Timestamp} {action : Action}
    {effects : List (Component × Effect)} (hordinary : action ≠ .requestShutdown)
    (h : s.step now time action = some (s', effects)) : Progress s action s' := by
  cases action with
  | beginCycle port =>
      simp only [step] at h
      refine step_monitor_progress h fun {lane m shown} hm => ?_
      obtain ⟨m', hm', heq⟩ := Option.map_eq_some_iff.mp hm
      obtain ⟨rfl, -⟩ := Prod.mk.inj heq
      exact .beginCycle hm'
  | answer port i result =>
      simp only [step] at h
      refine step_monitor_progress h fun {lane m shown} hm => ?_
      obtain ⟨rfl, -⟩ := Prod.mk.inj (Option.some.inj hm)
      exact .answer i result
  | crash port i error =>
      simp only [step] at h
      refine step_monitor_progress h fun {lane m shown} hm => ?_
      obtain rfl := congrArg Prod.fst (Option.some.inj hm)
      exact .crash i error
  | finishCycle port => exact finish_cycle_progress h
  | publish port =>
      simp only [step] at h
      refine step_monitor_progress h fun {lane m shown} hm => ?_
      obtain ⟨m', hm', heq⟩ := Option.map_eq_some_iff.mp hm
      obtain ⟨rfl, -⟩ := Prod.mk.inj heq
      exact .publish hm'
  | takeElection port => exact take_election_progress h
  | takeTraffic port => exact take_traffic_progress h
  | stepRunner port pick => exact step_runner_progress h
  | trackElection => exact track_election_progress h
  | followElection => exact follow_election_progress h
  | report => exact report_progress h
  | toggle enabled note =>
      obtain ⟨rfl, -⟩ := Prod.mk.inj (Option.some.inj h)
      exact ⟨.active, s.active, s.active, rfl, lane?_set_self rfl, rfl, rfl, .toggle enabled note⟩
  | stepToggle =>
      obtain ⟨⟨cluster, shown⟩, hcluster, heq⟩ := Option.map_eq_some_iff.mp h
      obtain ⟨rfl, -⟩ := Prod.mk.inj heq
      exact ⟨.active, s.active, s.active, rfl, lane?_set_self rfl, rfl, rfl, .stepToggle hcluster⟩
  | connect port client => exact connect_progress h
  | endDial n result => exact end_dial_progress h
  | stepCall n => exact step_call_progress h
  | clientEvent n event =>
      simp only [step] at h
      refine step_backend_progress rfl h fun {b b' i shown} hb' => ?_
      obtain ⟨rfl, -⟩ := Prod.mk.inj (Option.some.inj hb')
      exact ⟨.clientEvent i event, [], rfl, rfl⟩
  | serverEvent n event =>
      simp only [step] at h
      refine step_backend_progress rfl h fun {b b' i shown} hb' => ?_
      obtain ⟨rfl, -⟩ := Prod.mk.inj (Option.some.inj hb')
      exact ⟨.serverEvent i event, [], rfl, rfl⟩
  | requestShutdown => exact absurd rfl hordinary
  | stopMonitor port => cases (hrunning.when_stopping _).symm.trans h
  | stopLogger => cases (hrunning.when_stopping _).symm.trans h
  | stopFollowing => cases (hrunning.when_stopping _).symm.trans h
  | drain port => cases (hrunning.when_stopping _).symm.trans h
  | stopRunner port => cases (hrunning.stop_runner port now).symm.trans h

end GaleraProxy.Service
