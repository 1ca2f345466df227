import GaleraProxy.Proofs.Service.Admission
import GaleraProxy.Proofs.Service.Learning

/-!
# Where clients are sent

Between the replies of the agents and the place where a client ends up stand the monitors, the
channels, the traffic switch, the runners and the backends that they share, each taking its steps
whenever it does. `settled_routing` says that none of this matters once everything has come to a
stop: the route of a port is a function of what the agents answer and of the latest decision.
-/

namespace GaleraProxy

/-- Nothing waits in a channel of the lane, and its parts are at nothing. -/
structure Lane.Settled (lane : Lane) : Prop where
  published : lane.monitor.handing = none
  drained : ∀ channel ∈ lane.monitor.subscribers, channel.waiting = none
  idle : lane.runner.task = .idle

instance (lane : Lane) : Decidable lane.Settled :=
  decidable_of_iff (lane.monitor.handing = none ∧
      (∀ channel ∈ lane.monitor.subscribers, channel.waiting = none) ∧ lane.runner.task = .idle)
    ⟨fun ⟨hpublished, hdrained, hidle⟩ => ⟨hpublished, hdrained, hidle⟩,
      fun h => ⟨h.published, h.drained, h.idle⟩⟩

namespace Service

/-- All lanes are settled, every toggle has returned and has been taken by the runners, and no call
can take a step by itself. -/
structure Settled (s : Service) : Prop where
  lanes : ∀ port ∈ s.ports, ∀ lane ∈ s.lane? port, lane.Settled
  decided : s.cluster.pending = []
  drained : ∀ channel ∈ s.cluster.subscribers, channel.waiting = none
  waiting : ∀ b ∈ s.backends, ∀ i < b.calls.length, b.stepCall i = none

instance (s : Service) : Decidable s.Settled :=
  decidable_of_iff ((∀ port ∈ s.ports, ∀ lane ∈ s.lane? port, lane.Settled) ∧
      s.cluster.pending = [] ∧ (∀ channel ∈ s.cluster.subscribers, channel.waiting = none) ∧
      ∀ b ∈ s.backends, ∀ i < b.calls.length, b.stepCall i = none)
    ⟨fun ⟨hlanes, hdecided, hdrained, hwaiting⟩ => ⟨hlanes, hdecided, hdrained, hwaiting⟩,
      fun h => ⟨h.lanes, h.decided, h.drained, h.waiting⟩⟩

/-- A port that has a lane is served. -/
theorem mem_ports {s : Service} {port : ProxyPort} {lane : Lane} (h : s.lane? port = some lane) :
    port ∈ s.ports := by
  unfold ports
  cases port with
  | active => split <;> simp
  | inactive =>
      have hsome : s.inactive.isSome = true := by
        rw [show s.inactive = some lane from h]
        rfl
      simp [hsome]

variable {c : Config} {s : Service} {port : ProxyPort} {lane : Lane}

theorem Settled.at_port (h : s.Settled) (hlane : s.lane? port = some lane) : lane.Settled :=
  h.lanes port (mem_ports hlane) lane hlane

/-- In a settled state a runner has the election of its monitor. -/
theorem Sound.active_of_settled (h : s.Sound c) (hsettled : s.Settled)
    (hlane : s.lane? port = some lane) : lane.runner.active = lane.monitor.active := by
  have hquiet := hsettled.at_port hlane
  have hinforms := (h.lanes hlane).elections
  rw [Monitor.Informs, hquiet.published] at hinforms
  rw [← Runner.next_active_of_idle hquiet.idle]
  exact hinforms.seen_of_empty hquiet.drained

/-- In a settled state a runner has the latest decision of the traffic switch. -/
theorem Sound.traffic_of_settled (h : s.Sound c) (hsettled : s.Settled)
    (hlane : s.lane? port = some lane) : lane.runner.trafficEnabled = s.cluster.enabled := by
  have hinforms := (h.lanes hlane).decisions
  have hnone : s.cluster.handing = none := by rw [Cluster.handing, hsettled.decided]; rfl
  rw [Cluster.Informs, hnone] at hinforms
  rw [← Runner.next_traffic_of_idle (hsettled.at_port hlane).idle]
  exact hinforms.seen_of_empty hsettled.drained

/-- In a settled state the cluster shows the election of the active monitor. -/
theorem Sound.shown_of_settled (h : s.Sound c) (hsettled : s.Settled) :
    s.cluster.active = s.asActive s.active.monitor.active := by
  have hactive : s.lane? .active = some s.active := rfl
  have hquiet := hsettled.at_port hactive
  have hinforms := h.followed
  rw [Followed, Monitor.Informs, hquiet.published] at hinforms
  rw [hinforms.seen_of_empty hquiet.drained, ← shown_as_configured h.shared.configured_eq]
  rfl

/-- In a settled state every sever has returned. -/
theorem Sound.severs_returned (h : s.Sound c) (hsettled : s.Settled) {j k : Nat} {b : Backend}
    {sever : Sever} (hb : s.backends[j]? = some b) (hsever : b.severs[k]? = some sever) :
    sever = .returned := by
  rcases h.attended hb hsever with hreturned | ⟨port, lane, hlane, hattends⟩
  · exact hreturned
  · exact absurd hattends (Runner.not_attends_of_idle (hsettled.at_port hlane).idle)

/-- A client that has a session has a bridge that is not closed. -/
theorem open_bridge_of_isOpen {client : Client} (hopen : s.isOpen client = true) :
    ∃ b call id bridge point, s.backends[client.backend]? = some b ∧
      b.calls[client.call]? = some call ∧ call.stage = .bridged id bridge point ∧
      bridge.closed = false := by
  unfold isOpen call? at hopen
  cases hb : s.backends[client.backend]? with
  | none => simp [hb] at hopen
  | some b =>
      cases hc : b.calls[client.call]? with
      | none => simp [hb, hc] at hopen
      | some call =>
          simp only [hb, hc, Option.bind_some] at hopen
          split at hopen
          · rename_i hcall
            obtain rfl := Option.some.inj hcall
            exact ⟨b, _, _, _, _, rfl, hc, rfl, by simpa using hopen⟩
          · rename_i hcall
            obtain rfl := Option.some.inj hcall
            exact ⟨b, _, _, _, _, rfl, hc, rfl, by simpa using hopen⟩
          · cases hopen

/-- In a settled state a client that has a session is at the backend that the runner of its port
serves. -/
theorem Sound.serves_of_session (h : s.Sound c) (hsettled : s.Settled)
    (hlane : s.lane? port = some lane) {client : Client} (hsession : client ∈ s.sessions port) :
    lane.runner.Serves client.backend := by
  obtain ⟨hclient, hopen⟩ := List.mem_filter.mp hsession
  simp only [Bool.and_eq_true, beq_iff_eq] at hopen
  obtain ⟨rfl, hopen⟩ := hopen
  obtain ⟨b, call, id, bridge, point, hb, hc, hstage, hunclosed⟩ := open_bridge_of_isOpen hopen
  have hwaits := hsettled.waiting b (List.mem_of_getElem? hb) client.call
    (List.getElem?_eq_some_iff.mp hc).1
  -- whoever came at this port, its own runner answers for
  exact (h.answers hlane).serves_of_open (h.consistent hb) hb
    (fun hsever => h.severs_returned hsettled hb hsever) hc hclient hwaits hstage hunclosed

/-- The runner of a settled lane can turn to what comes next, and this is its route. -/
theorem Sound.ready_of_settled (h : s.Sound c) (hsettled : s.Settled)
    (hlane : s.lane? port = some lane) : lane.runner.isReady = true ∧
      lane.runner.route = if lane.runner.trafficEnabled then lane.runner.active else none := by
  have hserving := (h.lanes hlane).serving
  have hidle := (hsettled.at_port hlane).idle
  simp [Runner.isReady, Runner.route, Runner.isRunning, hserving, hidle]

end Service

namespace Deployment

/-- The service is settled, and every monitor has completed a cycle of polls that began after the
latest change of what the agents answer. -/
structure Settled (d : Deployment) : Prop where
  service : d.service.Settled
  polled : ∀ port ∈ d.service.ports, d.polled port = true

/-- The backend that is elected for a port by what the agents answer: the healthy one with the
lowest index for the active port, and the one with the highest for the inactive port. -/
def elected (c : Config) (replies : Replies) (port : ProxyPort) : Elected :=
  Monitor.electedBy replies port.policy c.agentTls.enabled (Service.nodes c)

variable {c : Config} {d : Deployment} {port : ProxyPort} {lane : Lane}

/-- In a settled state a monitor has chosen the backend that the agents' answers elect. -/
theorem Sound.chosen_of_settled (h : d.Sound c) (hsettled : d.Settled)
    (hlane : d.service.lane? port = some lane) :
    lane.monitor.active = elected c d.replies port := by
  have hremembers := (h.service.lanes hlane).remembers
  have hreflects := (h.tells hlane).reflects (hsettled.polled port (Service.mem_ports hlane))
  rw [hremembers.chosen, hreflects.choose_eq hremembers.statuses, hremembers.policy_eq,
    hremembers.tls_eq]
  rfl

/-- Where a new client of a settled deployment is sent is decided by the route of its port. -/
theorem Sound.admits_iff_of_settled (h : d.Sound c) (hsettled : d.Settled)
    (hlane : d.service.lane? port = some lane) (i : Nat) :
    d.Admits port i ↔ lane.runner.route = some i := by
  obtain ⟨hready, hroute⟩ := h.service.ready_of_settled hsettled.service hlane
  have hplace : ∀ {j : Nat}, lane.runner.route = some j → ∃ b, d.service.backends[j]? = some b := by
    intro j hj
    have hactive : lane.runner.active = some j := by
      rw [hroute] at hj
      split at hj
      · exact hj
      · cases hj
    rw [h.service.active_of_settled hsettled.service hlane,
      (h.service.lanes hlane).remembers.chosen,
      ← lane.monitor.choose_as_configured h.service.shared.configured_eq] at hactive
    exact ⟨_, List.getElem?_eq_getElem (Monitor.choose_lt hactive)⟩
  constructor
  · intro hadmits
    cases hr : lane.runner.route with
    | none => exact absurd hadmits ((turns_away_of_route hlane hready hr).not_admits i)
    | some j =>
        obtain ⟨b, hb⟩ := hplace hr
        rw [(admits_of_route hlane hready hr hb).unique hadmits]
  · intro hr
    obtain ⟨b, hb⟩ := hplace hr
    exact admits_of_route hlane hready hr hb

/-- For every configuration and every run before shutdown, in which the agents may change their
answers, the traffic switch may be toggled, and clients may connect, dial and hang up at any time,
each part taking its steps whenever it does. In every settled state, for each port that is served:
the monitor chooses what the present answers of the agents elect; a new client is connected with a
backend if and only if the latest decision lets traffic through and that backend is elected; in
every other case its connection is dropped; and all sessions are at that same backend, with traffic
enabled. The cluster shows the elected backend of the active port. -/
theorem settled_routing (c : Config) (now : Moment) (replies : Replies)
    (actions : List (Moment × Timestamp × Action))
    (hrun : (start c now replies).run actions = some d) (hsettled : d.Settled) :
    (∀ (port : ProxyPort) (lane : Lane), d.service.lane? port = some lane →
      lane.monitor.choose d.service.backends = elected c d.replies port ∧
      (∀ i, d.Admits port i ↔
        d.service.cluster.enabled = true ∧ elected c d.replies port = some i) ∧
      (¬ (d.service.cluster.enabled = true ∧ (elected c d.replies port).isSome) →
        d.TurnsAway port) ∧
      ∀ client ∈ d.service.sessions port,
        d.service.cluster.enabled = true ∧ elected c d.replies port = some client.backend) ∧
    d.service.cluster.active = d.service.asActive (elected c d.replies .active) := by
  have h : d.Sound c := run_sound (start_sound c now replies) hrun
  refine ⟨fun port lane hlane => ?_, ?_⟩
  · -- from the agents to the monitor, and from the monitor and the switch to the runner
    have hchosen := h.chosen_of_settled hsettled hlane
    have hactive := (h.service.active_of_settled hsettled.service hlane).trans hchosen
    have htraffic := h.service.traffic_of_settled hsettled.service hlane
    obtain ⟨hready, hroute⟩ := h.service.ready_of_settled hsettled.service hlane
    rw [hactive, htraffic] at hroute
    have hchoose : lane.monitor.choose d.service.backends = elected c d.replies port := by
      rw [lane.monitor.choose_as_configured h.service.shared.configured_eq,
        ← (h.service.lanes hlane).remembers.chosen, hchosen]
    refine ⟨hchoose, fun i => ?_, fun hnone => ?_, fun client hsession => ?_⟩
    · rw [h.admits_iff_of_settled hsettled hlane, hroute, Option.ite_none_right_eq_some]
    · refine turns_away_of_route hlane hready ?_
      rw [hroute, ite_eq_right_iff]
      intro henabled
      exact Option.not_isSome_iff_eq_none.mp fun hsome => hnone ⟨henabled, hsome⟩
    · obtain ⟨-, hserved, henabled⟩ :=
        h.service.serves_of_session hsettled.service hlane hsession
      exact ⟨htraffic.symm.trans henabled, hactive.symm.trans hserved⟩
  · have hlane : d.service.lane? .active = some d.service.active := rfl
    rw [h.service.shown_of_settled hsettled.service, h.chosen_of_settled hsettled hlane]

/-- Two nodes, with a port for the active one and a port for the inactive one. -/
def twoNodes : Config :=
  { bindAddress := Config.defaultBindAddress
    proxy :=
      { port := 3306, inactivePort := some 3307, healthcheckTimeoutMillis := 5000
        shutdownDelaySeconds := 10
        backends := [⟨"a", "10.0.0.1", 3306, 9201, "status"⟩,
          ⟨"b", "10.0.0.2", 3306, 9201, "status"⟩] }
    api := { port := 8080, username := "admin", password := "secret" }
    healthPort := none, agentTls := Config.defaultTls
    statusLogIntervalSecs := Config.defaultStatusLogInterval }

/-- An agent that says that its node is healthy and has an index. -/
def healthyAt (index : String) : AgentReply :=
  ⟨200, Utf8.encode ("\x7b\"healthy\":true,\"wsrep_local_index\":" ++ index ++ "\x7d")⟩

/-- Both nodes are healthy. -/
def bothHealthy : Replies := fun url =>
  if url = "http://10.0.0.1:9201/status" then .ok (healthyAt "0") else .ok (healthyAt "1")

/-- The first node does not answer any more. -/
def firstGone : Replies := fun url =>
  if url = "http://10.0.0.1:9201/status" then .error (.httpTimeout url 5000)
  else .ok (healthyAt "1")

/-- A toggle is recorded, and both runners take it. -/
def toggling (enabled : Bool) : List Action :=
  [.serve (.toggle enabled ""), .serve .stepToggle, .serve .stepToggle, .serve .stepToggle,
   .serve .stepToggle, .serve (.takeTraffic .active), .serve (.takeTraffic .inactive)]

/-- Both monitors complete a cycle, and all who follow the active one take its election. -/
def polling : List Action :=
  [.serve (.beginCycle .active), .serve (.beginCycle .inactive), .ask .active 0, .ask .inactive 1,
   .ask .inactive 0, .ask .active 1, .serve (.finishCycle .active), .serve (.publish .active),
   .serve (.takeElection .active), .serve (.publish .active), .serve .trackElection,
   .serve (.publish .active), .serve .followElection, .serve (.publish .active),
   .serve (.finishCycle .inactive)]

/-- Traffic is stopped while the first elections take place, and then a client comes at each port.
-/
def opening : List Action :=
  toggling false ++ polling ++
    [.serve (.publish .inactive), .serve (.publish .inactive), .serve (.takeElection .inactive)] ++
    toggling true ++ visit 0 .active (.empty 8) (.empty 8) ++
    visit 1 .inactive (.empty 8) (.empty 8)

/-- The first node is replaced, and its client leaves. -/
def failingOver : List Action :=
  polling ++
    [.serve (.stepRunner .active 0), .serve (.stepRunner .active 0), .serve (.stepRunner .active 0),
     .serve (.stepRunner .active 0), .serve (.stepCall 0), .serve (.stepCall 0),
     .serve (.stepCall 0)]

/-- The whole run. -/
def openingAndFailingOver : List (Moment × Timestamp × Action) :=
  (opening ++ [Action.change firstGone]).map (fun action => (1000000000, ⟨0, 0⟩, action)) ++
    failingOver.map fun action => (3000000000, ⟨1, 0⟩, action)

/-- In the end new clients of the active port are let in at the second node, which the cluster
shows, and the client of the inactive port is still there. -/
theorem settled_routing_of_fail_over :
    ∃ d, (start twoNodes 0 bothHealthy).run openingAndFailingOver = some d ∧ d.Settled ∧
      d.Admits .active 1 ∧ ¬ d.Admits .active 0 ∧
      d.service.sessions .active = [] ∧ d.service.sessions .inactive = [⟨.inactive, 1, 0⟩] ∧
      d.service.cluster.active = some ⟨"10.0.0.2", 3306, "b"⟩ := by
  have hend : ((start twoNodes 0 bothHealthy).run openingAndFailingOver).any (fun d =>
      d.service.Settled ∧ (∀ port ∈ d.service.ports, d.polled port = true) ∧
      d.service.active.monitor.choose d.service.backends = some 1 ∧
      d.service.cluster.enabled = true ∧ d.service.asActive (some 1) = some ⟨"10.0.0.2", 3306, "b"⟩ ∧
      d.service.sessions .active = [] ∧ d.service.sessions .inactive = [⟨.inactive, 1, 0⟩]) =
      true := by
    decide +kernel
  obtain ⟨d, hrun, hlast⟩ := (Option.any_eq_true _ _).mp hend
  obtain ⟨hsettled, hpolled, hchosen, henabled, hshown, hactive, hinactive⟩ :=
    of_decide_eq_true hlast
  obtain ⟨hports, hcluster⟩ :=
    settled_routing twoNodes 0 bothHealthy openingAndFailingOver hrun ⟨hsettled, hpolled⟩
  obtain ⟨hchoose, hadmits, -⟩ := hports .active d.service.active rfl
  have helected : elected twoNodes d.replies .active = some 1 := hchoose.symm.trans hchosen
  rw [helected] at hadmits hcluster
  refine ⟨d, hrun, ⟨hsettled, hpolled⟩, (hadmits 1).mpr ⟨henabled, rfl⟩, fun hfirst => ?_, hactive,
    hinactive, hcluster.trans hshown⟩
  cases ((hadmits 0).mp hfirst).2

end Deployment

end GaleraProxy
