import GaleraProxy.Proofs.Cluster.Toggling
import GaleraProxy.Proofs.Monitor.Operations
import GaleraProxy.Proofs.Monitor.Polling
import GaleraProxy.Proofs.Runner.Answering
import GaleraProxy.Proofs.Service.Progress

/-!
# What the parts of the service know of each other

The runner of a lane follows its monitor and the traffic switch, and the cluster follows the monitor
of the active lane. `LaneSound` and `Followed` say that each is informed of the latest election and
the latest decision; every step keeps them, be it one of the lane or of the other one.
-/

namespace GaleraProxy.Service

variable {configured : List Backend} {tls : Bool} {port q : ProxyPort} {p p' : Scope}
  {action : Action}

/-- The monitor of a lane remembers what it chooses, and the runner is informed of it and of the
latest decision of the traffic switch. -/
structure LaneSound (configured : List Backend) (tls : Bool) (cluster : Cluster)
    (port : ProxyPort) (lane : Lane) : Prop where
  serving : lane.runner.phase = .serving
  remembers : lane.monitor.Remembers port.policy tls configured
  elections : lane.monitor.Informs runnerPlace fun e => lane.runner.nextActive = e
  decisions : cluster.Informs port.trafficPlace fun b => lane.runner.nextTraffic = b

/-- The backends are as they were configured, and toggles have their turn in order. -/
structure Shared (configured : List Backend) (backends : List Backend) (cluster : Cluster) :
    Prop where
  configured_eq : backends.map Backend.asConfigured = configured
  orderly : cluster.Orderly

/-- A step moves the runner of its lane and the backends. -/
theorem Scope.Step.move (h : p.Step port action p') :
    p.lane.runner.Move p.backends p'.lane.runner p'.backends := by
  have hsame : p.lane.runner.Agrees p.lane.runner := ⟨rfl, rfl, rfl⟩
  cases h with
  | finishCycle hfinish =>
      obtain ⟨polls, outcomes, statuses, shown, chosen, -, -, happly, -, -⟩ :=
        Monitor.finish_cycle_cases hfinish
      have haside := Monitor.apply_outcomes_aside p.backends p.lane.monitor.statuses outcomes
      rw [happly] at haside
      exact .aside haside
  | takeElection hready => exact .begin _ hready
  | takeTraffic hready => exact .begin _ hready
  | stepRunner pick hstep => exact .go hstep
  | connect client hready => exact .accept client hready
  | ofCall hcall haside => exact .aside haside
  | beginCycle => exact .stay _ hsame
  | answer => exact .stay _ hsame
  | crash => exact .stay _ hsame
  | publish => exact .stay _ hsame
  | trackElection => exact .stay _ hsame
  | followElection => exact .stay _ hsame
  | report => exact .stay _ hsame
  | reportAndFail => exact .stay _ hsame
  | toggle => exact .stay _ hsame
  | stepToggle => exact .stay _ hsame
  | turnAway => exact .stay _ hsame

theorem Scope.Step.shared (h : p.Step port action p')
    (hshared : Shared configured p.backends p.cluster) :
    Shared configured p'.backends p'.cluster where
  configured_eq := h.move.onward.as_configured.trans hshared.configured_eq
  orderly := by
    cases h with
    | toggle enabled note => exact hshared.orderly.begin_toggle enabled note
    | stepToggle hstep => exact hshared.orderly.step hstep
    | takeTraffic => exact ⟨hshared.orderly.first, hshared.orderly.others⟩
    | followElection => exact ⟨hshared.orderly.first, hshared.orderly.others⟩
    | _ => exact hshared.orderly

/-- The runner of the lane that takes a step stays informed of the latest decision. -/
theorem Scope.Step.decisions (h : p.Step port action p') (horderly : p.cluster.Orderly)
    (hinforms : p.cluster.Informs port.trafficPlace fun b => p.lane.runner.nextTraffic = b) :
    p'.cluster.Informs port.trafficPlace fun b => p'.lane.runner.nextTraffic = b := by
  cases h with
  | toggle enabled note => exact hinforms.begin_toggle enabled note
  | stepToggle hstep => exact hinforms.step horderly hstep
  | takeElection hready =>
      rw [(Runner.begin_election_next (Runner.task_of_ready hready) _ _).2]
      exact hinforms
  | takeTraffic hready hc hwaiting =>
      exact hinforms.take hc hwaiting
        (Runner.begin_traffic_next (Runner.task_of_ready hready) _ _).2
  | stepRunner pick hstep =>
      rw [(Runner.step_change_next hstep).2]
      exact hinforms
  | _ => exact hinforms

theorem traffic_place_ne (hq : q ≠ port) : port.trafficPlace ≠ q.trafficPlace := by
  cases port <;> cases q <;> simp_all [ProxyPort.trafficPlace]

/-- The runner of the other lane stays informed as well. -/
theorem Scope.Step.decisions_other (h : p.Step port action p') (hq : q ≠ port)
    (horderly : p.cluster.Orderly) {seen : Bool → Prop}
    (hinforms : p.cluster.Informs q.trafficPlace seen) :
    p'.cluster.Informs q.trafficPlace seen := by
  cases h with
  | toggle enabled note => exact hinforms.begin_toggle enabled note
  | stepToggle hstep => exact hinforms.step horderly hstep
  | takeTraffic => exact hinforms.take_other (traffic_place_ne hq) _
  | _ => exact hinforms

/-- The runner of the lane that takes a step stays informed of the latest election. -/
theorem Scope.Step.elections (h : p.Step port action p')
    (hinforms : p.lane.monitor.Informs runnerPlace fun e => p.lane.runner.nextActive = e) :
    p'.lane.monitor.Informs runnerPlace fun e => p'.lane.runner.nextActive = e := by
  cases h with
  | beginCycle hstep => exact hinforms.begin_cycle hstep
  | answer i result => exact hinforms.modify_poll i _
  | crash i error => exact hinforms.modify_poll i _
  | finishCycle hstep => exact hinforms.finish_cycle hstep
  | publish hstep => exact hinforms.publish hstep
  | takeElection hready hstep =>
      exact hinforms.take hstep (Runner.begin_election_next (Runner.task_of_ready hready) _ _).1
  | takeTraffic hready =>
      rw [(Runner.begin_traffic_next (Runner.task_of_ready hready) _ _).1]
      exact hinforms
  | stepRunner pick hstep =>
      rw [(Runner.step_change_next hstep).1]
      exact hinforms
  | trackElection hport hstep => exact hinforms.take_other (by decide) hstep
  | followElection hport hstep => exact hinforms.take_other (by decide) hstep
  | reportAndFail => exact hinforms.drop_other (by decide)
  | _ => exact hinforms

theorem Scope.Step.remembers (h : p.Step port action p') {policy : Policy}
    (hshared : Shared configured p.backends p.cluster)
    (hremembers : p.lane.monitor.Remembers policy tls configured) :
    p'.lane.monitor.Remembers policy tls configured := by
  cases h with
  | beginCycle hstep => exact hremembers.begin_cycle hstep
  | answer i result => exact hremembers.modify_poll i _
  | crash i error => exact hremembers.modify_poll i _
  | finishCycle hstep => exact hremembers.finish_cycle hstep hshared.configured_eq
  | publish hstep => exact hremembers.publish hstep
  | takeElection hready hstep => exact hremembers.take hstep
  | trackElection hport hstep => exact hremembers.take hstep
  | followElection hport hstep => exact hremembers.take hstep
  | reportAndFail => exact hremembers.of_same rfl rfl rfl rfl
  | _ => exact hremembers

theorem Scope.Step.serving (h : p.Step port action p') :
    p'.lane.runner.phase = p.lane.runner.phase := by
  cases h with
  | takeElection => exact Runner.begin_change_phase ..
  | takeTraffic => exact Runner.begin_change_phase ..
  | stepRunner pick hstep => exact Runner.step_change_phase hstep
  | _ => rfl

/-- A step keeps its lane sound. -/
theorem Scope.Step.lane_sound (h : p.Step port action p')
    (hshared : Shared configured p.backends p.cluster)
    (hlane : LaneSound configured tls p.cluster port p.lane) :
    LaneSound configured tls p'.cluster port p'.lane where
  serving := h.serving.trans hlane.serving
  remembers := h.remembers hshared hlane.remembers
  elections := h.elections hlane.elections
  decisions := h.decisions hshared.orderly hlane.decisions

/-- A step of one lane keeps the other sound. -/
theorem Scope.Step.other_sound (h : p.Step port action p')
    (hshared : Shared configured p.backends p.cluster) (hq : q ≠ port) {lane : Lane}
    (hlane : LaneSound configured tls p.cluster q lane) :
    LaneSound configured tls p'.cluster q lane :=
  { hlane with decisions := h.decisions_other hq hshared.orderly hlane.decisions }

/-! ## The cluster follows the active lane -/

/-- An election as the cluster shows it. -/
def shownAs (backends : List Backend) (e : Elected) : Option ActiveBackend :=
  e.bind fun i => backends[i]?.map Backend.asActive

/-- What the cluster shows depends on what is configured. -/
theorem shown_as_configured {backends : List Backend}
    (hconfigured : backends.map Backend.asConfigured = configured) (e : Elected) :
    shownAs backends e = shownAs configured e := by
  cases e with
  | none => rfl
  | some i =>
      rw [← hconfigured, shownAs, shownAs, Option.bind_some, Option.bind_some,
        List.getElem?_map, Option.map_map]
      rfl

/-- The cluster is informed of the latest election of the active lane. -/
def Followed (configured : List Backend) (cluster : Cluster) (lane : Lane) : Prop :=
  lane.monitor.Informs clusterPlace fun e => cluster.active = shownAs configured e

/-- What the cluster shows is changed from the active lane only. -/
theorem Scope.Step.followed_other (h : p.Step .inactive action p') {lane : Lane}
    (hfollowed : Followed configured p.cluster lane) : Followed configured p'.cluster lane := by
  cases h with
  | stepToggle hstep =>
      rw [Followed, Cluster.step_active hstep]
      exact hfollowed
  | followElection hport => cases hport
  | _ => exact hfollowed

theorem Scope.Step.followed (h : p.Step .active action p')
    (hshared : Shared configured p.backends p.cluster)
    (hfollowed : Followed configured p.cluster p.lane) :
    Followed configured p'.cluster p'.lane := by
  cases h with
  | beginCycle hstep => exact hfollowed.begin_cycle hstep
  | answer i result => exact hfollowed.modify_poll i _
  | crash i error => exact hfollowed.modify_poll i _
  | finishCycle hstep => exact hfollowed.finish_cycle hstep
  | publish hstep => exact hfollowed.publish hstep
  | takeElection hready hstep => exact hfollowed.take_other (by decide) hstep
  | trackElection hport hstep => exact hfollowed.take_other (by decide) hstep
  | followElection hport hstep =>
      exact hfollowed.take hstep (shown_as_configured hshared.configured_eq _)
  | reportAndFail => exact hfollowed.drop_other (by decide)
  | stepToggle hstep =>
      rw [Followed, Cluster.step_active hstep]
      exact hfollowed
  | _ => exact hfollowed

end GaleraProxy.Service
