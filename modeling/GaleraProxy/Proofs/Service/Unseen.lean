import GaleraProxy.Proofs.Monitor.Polling
import GaleraProxy.Proofs.Service.Calls
import GaleraProxy.Proofs.Service.Operations
import GaleraProxy.Proofs.Service.OwnSevers

/-!
# What a port does not see

The other port and its clients take steps, too. `sight_of_unseen` says that nothing of it changes
what a port sees, as long as the runner of the other port severs no backend that the port has a call
at.
-/

namespace GaleraProxy

namespace Service

variable {c : Config} {s s' : Service} {port q : ProxyPort} {action : Action}

/-! ## Frames -/

variable {lane : Option Lane} {backends backends' : List Backend} {clients : List Client}
  {logger : Option (StatusLogger.Phase × Duration)}

theorem sight_with_backends (s : Service) (port : ProxyPort) (backends : List Backend) :
    ({ s with backends } : Service).sight port =
      sightOf (s.lane? port) backends (s.clientsOf port) (s.loggerFor port) := by
  cases port <;> rfl

theorem clientsOf_with_lane (s : Service) (q port : ProxyPort) (lane : Lane)
    (backends : List Backend) :
    (s.withLane q lane backends).clientsOf port = s.clientsOf port := by
  cases q <;> rfl

/-- The lane of the port may change, and backends with it. -/
theorem sight_with_lane (s : Service) (port : ProxyPort) (lane : Lane) (backends : List Backend) :
    (s.withLane port lane backends).sight port =
      sightOf (some lane) backends (s.clientsOf port) (s.loggerFor port) := by
  cases port <;> rfl

/-- The lane of the other port may change, and backends with it. -/
theorem sight_set_lane_other (hq : q ≠ port) (s : Service) (lane : Lane)
    (backends : List Backend) :
    (s.withLane q lane backends).sight port =
      sightOf (s.lane? port) backends (s.clientsOf port) (s.loggerFor port) := by
  cases q <;> cases port <;> first | exact absurd rfl hq | rfl

theorem guestAt_without_health (backends : List Backend) (held : List BridgeId)
    (client : Client) :
    guestAt? (backends.map Backend.withoutHealth) held client =
      guestAt? backends held client := by
  simp only [guestAt?, List.getElem?_map]
  cases backends[client.backend]? <;> rfl

theorem sever_without_health (r : Runner) (backends : List Backend) :
    r.sever? (backends.map Backend.withoutHealth) = r.sever? backends := by
  unfold Runner.sever?
  split
  · rfl
  · rename_i i k change htask
    rw [List.getElem?_map]
    cases backends[i]? <;> rfl

/-- Nobody sees the health of backends. -/
theorem sight_of_health
    (h : backends'.map Backend.withoutHealth = backends.map Backend.withoutHealth) :
    sightOf lane backends' clients logger = sightOf lane backends clients logger := by
  have hsever : ∀ r : Runner, r.sever? backends' = r.sever? backends := fun r => by
    rw [← sever_without_health, h, sever_without_health]
  have hguest : ∀ ids client, guestAt? backends' ids client = guestAt? backends ids client :=
    fun ids client => by rw [← guestAt_without_health, h, guestAt_without_health]
  have hheld : heldBy lane backends' = heldBy lane backends := by
    cases lane with
    | none => rfl
    | some lane => exact Runner.held_congr (hsever _)
  simp only [sightOf, Lane.sight, glances, hheld, hguest, hsever]

/-- A backend may change as long as the runner of the lane keeps its sever. -/
theorem sight_of_backend {j : Nat} {b b' : Backend} (hb : backends[j]? = some b)
    (hsevers : ∀ own ∈ lane, ∀ k, own.runner.Attends j k → b'.severs[k]? = b.severs[k]?) :
    sightOf lane (backends.set j b') clients logger =
      { sightOf lane backends clients logger with
        guests := glances (backends.set j b') (heldBy lane backends) clients } := by
  cases lane with
  | none => rfl
  | some own =>
      have hsever := Runner.sever_set hb (hsevers own rfl)
      have hheld : heldBy (some own) (backends.set j b') = heldBy (some own) backends :=
        Runner.held_congr hsever
      simp only [sightOf, Option.map_some, Lane.sight, hsever, hheld]

/-- A backend may change as long as the runner of the lane keeps its sever and the guests stay. -/
theorem sight_of_backend_same (hplaced : Placed backends clients) {j : Nat} {b b' : Backend}
    (hb : backends[j]? = some b)
    (hsevers : ∀ own ∈ lane, ∀ k, own.runner.Attends j k → b'.severs[k]? = b.severs[k]?)
    (h : ∀ client ∈ clients, client.backend = j →
      ∀ call, b.calls[client.call]? = some call → ∃ call', b'.calls[client.call]? = some call' ∧
        b'.guest (heldBy lane backends j) call' = b.guest (heldBy lane backends j) call) :
    sightOf lane (backends.set j b') clients logger = sightOf lane backends clients logger := by
  rw [sight_of_backend hb hsevers, glances_set_same hb hplaced h]
  rfl

/-! ## Clients of the other port -/

/-- The guest of a client whose call is another one than the call that takes a step. -/
theorem guest_of_other_call (hcalm : s.Calm c) {g : Nat} {e d : Client} {b : Backend}
    {own call : Call} {registry : Registry} {stage : Call.Stage} (hcall : s.HasCall g e b own)
    (htouch : Backend.Touch b own.generation own.stage registry stage) (hne : d.call ≠ e.call)
    (hd : b.calls[d.call]? = some call) (held : List BridgeId) :
    ∃ call', (b.withCall registry e.call { own with stage }).calls[d.call]? = some call' ∧
      (b.withCall registry e.call { own with stage }).guest held call' = b.guest held call := by
  refine ⟨call, ?_, ?_⟩
  · rw [Backend.with_call_get hcall.call_get, if_neg (Ne.symm hne), hd]
  · have hconsistent := hcalm.sound.consistent hcall.backend_get
    exact htouch.guest_other hconsistent hcall.call_get hd (Ne.symm hne)

/-- A call of a client of the other port takes a step. -/
theorem sight_of_foreign_call (hcalm : s.Calm c) {g : Nat} {e : Client} {b : Backend}
    {own : Call} {registry : Registry} {stage : Call.Stage} (hport : e.port ≠ port)
    (hcall : s.HasCall g e b own)
    (htouch : Backend.Touch b own.generation own.stage registry stage) :
    (s.withCall e b registry { own with stage }).sight port = s.sight port := by
  rw [withCall, sight_with_backends]
  refine sight_of_backend_same (hcalm.placed port) hcall.backend_get (fun _ _ _ _ => rfl)
    fun d hd hbackend call hdcall => ?_
  exact guest_of_other_call hcalm hcall htouch
    (hcalm.call_ne_of_port hd hcall.client_get hport hbackend hcall.backend_get) hdcall _

/-- A client comes at the other port. -/
theorem sight_of_foreign_connect (hcalm : s.Calm c) {client : Duplex}
    {effects : List (Component × Effect)} (hq : q ≠ port)
    (h : s.connect q client = some (s', effects)) : s'.sight port = s.sight port := by
  obtain ⟨lane, hlane, -, ⟨hroute, rfl⟩ | ⟨i, hroute, rfl⟩⟩ := connect_iff.mp ⟨effects, h⟩
  · cases port <;> rfl
  · have hsight : ∀ backends new, new.port = q →
        ({ s with backends, clients := s.clients ++ [new] } : Service).sight port =
          sightOf (s.lane? port) backends (s.clientsOf port) (s.loggerFor port) := by
      intro backends new hnew
      have hclients : clientsOf { s with backends, clients := s.clients ++ [new] } port =
          s.clientsOf port := by
        simp [clientsOf, hnew, hq]
      rw [← hclients]
      cases port <;> rfl
    rw [hsight _ _ rfl]
    rcases lane.runner.accept_cases s.backends client with heq | ⟨j, b, -, hb, heq⟩
    · rw [heq]
      rfl
    · rw [heq]
      refine sight_of_backend_same (hcalm.placed port) hb (fun _ _ _ _ => rfl)
        fun d hd hbackend call hcall => ⟨call, ?_, rfl⟩
      have hlt := (List.getElem?_eq_some_iff.mp hcall).1
      exact (List.getElem?_append_left hlt).trans hcall

/-! ## The runner of the other port -/

/-- A call of a port that is spared has come to its end. -/
theorem Spares.over (h : s.Spares port) (hq : q ≠ port) {lane : Lane}
    (hlane : s.lane? q = some lane) {j k : Nat} (hattends : lane.runner.Attends j k)
    {client : Client} (hclient : client ∈ s.clientsOf port) (hj : client.backend = j)
    {b : Backend} (hb : s.backends[j]? = some b) {call : Call}
    (hcall : b.calls[client.call]? = some call) : call.isOver = true := by
  obtain rfl : q = port.other := by
    cases q <;> cases port <;> first | exact absurd rfl hq | rfl
  refine h lane hlane j (Runner.severing_iff.mpr ⟨k, hattends⟩) client hclient hj call ?_
  rw [call?, hj, hb, Option.bind_some, hcall]
  rfl

/-- The runner of the other port takes an election. -/
theorem sight_of_foreign_election (hcalm : s.Calm c) {effects : List (Component × Effect)}
    (hq : q ≠ port) (h : s.takeElection q = some (s', effects)) (hspares : s'.Spares port) :
    s'.sight port = s.sight port := by
  obtain ⟨lane, e, m, hlane, hready, -, rfl⟩ := take_election_iff.mp ⟨effects, h⟩
  rw [sight_set_lane_other hq]
  rcases lane.runner.begin_change_cases s.backends (.election e) with
    ⟨-, heq, -⟩ | ⟨i, b, -, hb, hr, heq⟩
  · rw [heq]
    rfl
  · rw [heq, hr] at hspares
    rw [heq]
    refine sight_of_backend_same (hcalm.placed port) hb (fun own hown k hattends => ?_)
      fun d hd hi call hcall => ⟨call, hcall, ?_⟩
    · -- the sever of the port began earlier
      obtain ⟨b', hb', hlt⟩ := hcalm.quiet.begun hown hattends
      obtain rfl := Option.some.inj (hb.symm.trans hb')
      exact List.getElem?_append_left hlt
    · have hover : call.isOver = true :=
        hspares.over hq (by rw [lane?_with_lane, if_pos rfl]) ⟨_, rfl⟩
          (by rwa [clientsOf_with_lane]) hi (getElem?_set_self_of_getElem? hb _) hcall
      exact Backend.guest_begin_sever_of_over hover

/-- The runner of the other port goes on with a change. -/
theorem sight_of_foreign_runner (hcalm : s.Calm c) {effects : List (Component × Effect)}
    {pick : Nat} (hq : q ≠ port) (h : s.stepRunner q pick = some (s', effects))
    (hspares : s.Spares port) : s'.sight port = s.sight port := by
  obtain ⟨lane, runner, backends, shown, hlane, hstep, rfl⟩ := step_runner_iff.mp ⟨effects, h⟩
  rw [sight_set_lane_other hq]
  obtain ⟨i, k, change, b, htask, hb, ⟨-, -, rfl⟩ | ⟨next, effects', hnext, -, rfl⟩⟩ :=
    Runner.step_change_cases hstep
  · rfl
  · have hadvance := Backend.step_sever_cases hnext
    have hattends : lane.runner.Attends i k := ⟨change, htask⟩
    refine sight_of_backend_same (hcalm.placed port) hb (fun own hown n hown' => ?_)
      fun d hd hi call hcall => ?_
    · -- the sever of the port is another one
      refine hadvance.severs_of_ne ?_
      rintro rfl
      exact hcalm.quiet.alone hq hlane hown hattends hown'
    · have hover := hspares.over hq hlane hattends hd hi hb hcall
      obtain ⟨hkept, hguest⟩ :=
        hadvance.guest_of_over (hcalm.sound.consistent hb) hcall hover
      exact ⟨call, hkept, hguest⟩

/-! ## Bridges of clients of the other port -/

/-- The bridge that a runner is about to close. -/
theorem closing_iff {pick i : Nat} {id : BridgeId} :
    s.closing? port pick = some (i, id) ↔ ∃ lane k b ids, s.lane? port = some lane ∧
      lane.runner.Attends i k ∧ s.backends[i]? = some b ∧ b.severs[k]? = some (.closing ids) ∧
      ids[pick]? = some id := by
  constructor
  · intro h
    obtain ⟨lane, hlane, h⟩ := Option.bind_eq_some_iff.mp h
    split at h
    · cases h
    · rename_i j k change htask
      obtain ⟨b, hb, h⟩ := Option.bind_eq_some_iff.mp h
      obtain ⟨sever, hsever, h⟩ := Option.bind_eq_some_iff.mp h
      split at h
      · obtain ⟨own, hown, heq⟩ := Option.map_eq_some_iff.mp h
        obtain ⟨rfl, rfl⟩ := Prod.mk.inj heq
        exact ⟨lane, k, b, _, hlane, ⟨change, htask⟩, hb, hsever, hown⟩
      · cases h
      · cases h
  · rintro ⟨lane, k, b, ids, hlane, ⟨change, htask⟩, hb, hsever, hid⟩
    simp [closing?, hlane, htask, hb, hsever, hid]

/-- A runner closes the bridge that it is about to close. -/
theorem close_of_step_runner {pick i k : Nat} {lane : Lane} {change : Runner.Change} {b : Backend}
    {ids : List BridgeId} {id : BridgeId} {effects : List (Component × Effect)}
    (hlane : s.lane? port = some lane) (htask : lane.runner.task = .severing i k change)
    (hb : s.backends[i]? = some b) (hsever : b.severs[k]? = some (.closing ids))
    (hid : ids[pick]? = some id) (h : s.stepRunner port pick = some (s', effects)) :
    s' = s.withLane port lane
      (s.backends.set i (b.closed id (b.severs.set k (.closing (ids.eraseIdx pick))))) := by
  rcases (step_runner_at hlane htask hb).mp ⟨effects, h⟩ with ⟨hreturned, -⟩ | ⟨next, hnext, rfl⟩
  · cases hsever.symm.trans hreturned
  · rcases Backend.step_sever_iff.mp hnext with
      ⟨hraised, -⟩ | ⟨hnil, -⟩ | ⟨own, own', hown, hown', rfl⟩
    · cases hsever.symm.trans hraised
    · obtain rfl := Sever.closing.inj (Option.some.inj (hsever.symm.trans hnil))
      cases hid
    · obtain rfl := Sever.closing.inj (Option.some.inj (hsever.symm.trans hown))
      obtain rfl := Option.some.inj (hid.symm.trans hown')
      rfl

/-- The runner of the port closes a bridge that is of none of its clients. -/
theorem sight_of_foreign_bridge (hcalm : s.Calm c) {effects : List (Component × Effect)}
    {pick : Nat} {bridge : Nat × BridgeId} (h : s.stepRunner port pick = some (s', effects))
    (hclosing : s.closing? port pick = some bridge) (hholder : s.holder? port bridge = none) :
    s'.sight port = s.sight port := by
  obtain ⟨i, id⟩ := bridge
  obtain ⟨lane, k, b, ids, hlane, hattends, hb, hsever, hid⟩ := closing_iff.mp hclosing
  obtain ⟨change, htask⟩ := hattends
  have hforeign : ∀ d ∈ s.clientsOf port, d.backend = i →
      ∀ call, b.calls[d.call]? = some call → call.hasBridge id = false := by
    intro d hd hi call hcall
    have hnot := List.findIdx?_eq_none_iff.mp hholder d hd
    simpa [call?, hi, hb, hcall] using hnot
  have hnodup := (hcalm.quiet.tidy hb).nodup hsever
  rw [close_of_step_runner hlane htask hb hsever hid h, sight_with_lane,
    sight_of_attends ⟨change, htask⟩ (getElem?_set_self_of_getElem? hb _)
      (getElem?_set_self_of_getElem? hsever _),
    glances_close_foreign hb (hcalm.placed port) hnodup hid _ hforeign, sight, hlane,
    sight_of_attends ⟨change, htask⟩ hb hsever]
  rfl

/-! ## What cannot happen -/

/-- Nothing waits for a runner that would come from the traffic switch. -/
theorem Calm.take_traffic (h : s.Calm c) (port : ProxyPort) : s.takeTraffic port = none := by
  cases hstep : s.takeTraffic port with
  | none => rfl
  | some outcome =>
      obtain ⟨q, lane, lane', hlane, -, -, -, hscope⟩ := take_traffic_progress hstep
      generalize outcome.1.scope lane' = p' at hscope
      cases hscope with
      | takeTraffic hready hc hwaiting =>
          cases (h.quiet.untouched.waiting hc).symm.trans hwaiting
      | ofCall hcall => cases hcall

/-- No call of the traffic switch goes on. -/
theorem Calm.step_cluster (h : s.Calm c) (time : Timestamp) : s.cluster.step time = none := by
  rw [Cluster.step, h.quiet.untouched.pending]

/-! ## Steps that are not seen -/

/-- A step of another monitor is not seen. -/
theorem sight_of_foreign_monitor {f : Monitor → Option (Monitor × List Effect)}
    {effects : List (Component × Effect)} (hq : q ≠ port)
    (h : s.stepMonitor q f = some (s', effects)) : s'.sight port = s.sight port := by
  obtain ⟨lane, m, shown, -, -, rfl⟩ := step_monitor_iff.mp ⟨effects, h⟩
  rw [sight_set_lane_other hq]
  rfl

/-- What a port does not see changes nothing of what it sees. -/
theorem sight_of_unseen (hcalm : s.Calm c) {now : Moment} {time : Timestamp}
    {effects : List (Component × Effect)} (hquiet : action.isQuiet = true)
    (hbefore : s.Spares port) (hafter : s'.Spares port)
    (hstep : s.step now time action = some (s', effects))
    (hunseen : s.seenAt port action = none) : s'.sight port = s.sight port := by
  have hport : ∀ {q : ProxyPort} {seen : Action}, (if q = port then some seen else none) = none →
      q ≠ port := by
    intro q seen h heq
    simp [heq] at h
  have hcall : ∀ {g : Nat}, action.caller? = some g → s.placeAt? port g = none →
      s'.sight port = s.sight port := by
    intro g hcaller hplace
    obtain ⟨e, b, own, registry, stage, hcall, htouch, rfl⟩ :=
      call_step_cases hcalm.sound.placed hcaller hstep
    exact sight_of_foreign_call hcalm (port_ne_of_place hplace hcall.client_get) hcall htouch
  -- no part stops before shutdown is requested
  have hstopped := hcalm.sound.is_running.when_stopping
  cases action with
  | beginCycle q =>
      simp only [step] at hstep
      exact sight_of_foreign_monitor (hport hunseen) hstep
  | answer q i result =>
      simp only [step] at hstep
      exact sight_of_foreign_monitor (hport hunseen) hstep
  | crash q i error =>
      simp only [step] at hstep
      exact sight_of_foreign_monitor (hport hunseen) hstep
  | publish q =>
      simp only [step] at hstep
      exact sight_of_foreign_monitor (hport hunseen) hstep
  | finishCycle q =>
      obtain ⟨lane, m, backends, shown, -, hfinish, rfl⟩ := finish_cycle_iff.mp ⟨effects, hstep⟩
      rw [sight_set_lane_other (hport hunseen)]
      exact sight_of_health (Monitor.finish_cycle_without_health hfinish)
  | takeElection q => exact sight_of_foreign_election hcalm (hport hunseen) hstep hafter
  | takeTraffic q => cases (hcalm.take_traffic q).symm.trans hstep
  | stepRunner q pick =>
      simp only [seenAt] at hunseen
      split at hunseen
      · rename_i heq
        subst q
        split at hunseen
        · exact sight_of_foreign_bridge hcalm hstep ‹_› (Option.map_eq_none_iff.mp hunseen)
        · cases hunseen
      · exact sight_of_foreign_runner hcalm ‹_› hstep hbefore
  | trackElection =>
      obtain ⟨-, e, m, -, rfl⟩ := track_election_iff.mp ⟨effects, hstep⟩
      cases port with
      | active => cases hunseen
      | inactive => rfl
  | followElection =>
      obtain ⟨-, e, m, -, rfl⟩ := follow_election_iff.mp ⟨effects, hstep⟩
      cases port with
      | active => cases hunseen
      | inactive => rfl
  | report =>
      obtain ⟨due, -, -, rfl⟩ := report_iff.mp ⟨effects, hstep⟩
      cases port with
      | active => cases hunseen
      | inactive =>
          rcases leave_failed_logger_cases { s with logger := _ } with heq | heq
          · rw [heq]
            rfl
          · rw [heq]
            rfl
  | toggle enabled note => cases hquiet
  | stepToggle => cases hunseen
  | connect q client => exact sight_of_foreign_connect hcalm (hport hunseen) hstep
  | endDial n result => exact hcall rfl (Option.map_eq_none_iff.mp hunseen)
  | stepCall n => exact hcall rfl (Option.map_eq_none_iff.mp hunseen)
  | clientEvent n event => exact hcall rfl (Option.map_eq_none_iff.mp hunseen)
  | serverEvent n event => exact hcall rfl (Option.map_eq_none_iff.mp hunseen)
  | requestShutdown => cases hquiet
  | stopMonitor q => cases (hstopped _).symm.trans hstep
  | stopLogger => cases (hstopped _).symm.trans hstep
  | stopFollowing => cases (hstopped _).symm.trans hstep
  | drain q => cases (hstopped _).symm.trans hstep
  | stopRunner q => cases (hcalm.sound.is_running.stop_runner q now).symm.trans hstep

end Service

end GaleraProxy
