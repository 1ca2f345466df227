import GaleraProxy.Proofs.Monitor.Polling
import GaleraProxy.Proofs.Service.Calls
import GaleraProxy.Proofs.Service.Operations

/-!
# How sessions end

As long as nobody toggles the traffic switch, a session ends in one of two ways: one of its sides
has hung up, or a runner, be it that of the own port or that of the other one, closes it because its
backend is replaced by an election. `Calm.session_ends` says so.
-/

namespace GaleraProxy

/-- The call has a session. -/
def Call.isOpen (c : Call) : Bool :=
  match c.stage with
  | .bridged _ bridge .admitted | .bridged _ bridge .copying => !bridge.closed
  | _ => false

/-- What happens at a far end ends no session by itself. -/
theorem Call.is_open_map_far (c : Call) (side : FarEnd) (event : Duplex.FarEvent) :
    (c.mapFar side fun d => d.afterFar event).isOpen = c.isOpen := by
  obtain ⟨generation, stage⟩ := c
  cases stage with
  | bridged id bridge point => cases side <;> cases point <;> rfl
  | _ => cases side <;> rfl

namespace Backend

variable {b : Backend}

/-- Whatever a call does by itself, its session stays open unless one of its sides has hung up. -/
theorem Advance.open_or_hung_up {generation : Nat} {registry : Registry}
    {stage stage' : Call.Stage} (h : Advance b generation stage registry stage')
    (htruthful : stage.Truthful) {i : Nat} (hconsistent : b.Consistent)
    (hc : b.calls[i]? = some ⟨generation, stage⟩) (hopen : Call.isOpen ⟨generation, stage⟩ = true) :
    Call.isOpen ⟨generation, stage'⟩ = true ∨ Call.isHungUp ⟨generation, stage⟩ = true := by
  cases h with
  | connect id bridge =>
      simp only [Call.isOpen, Bool.not_eq_true'] at hopen
      exact .inl (by simp [Call.isOpen, hopen])
  | copy id bridge next hstep =>
      simp only [Call.isOpen, Bool.not_eq_true'] at hopen
      cases hclosed : next.closed with
      | false => exact .inl (by simp [Call.isOpen, hclosed])
      | true => exact .inr (Bridge.hung_up_of_release htruthful hopen hstep hclosed)
  | finish id bridge hphase =>
      -- a bridge that has let go is closed
      simp only [Call.isOpen, Bool.not_eq_true'] at hopen
      have hclosed := ((hconsistent.custody hc rfl).sound.released hphase).1
      cases hopen.symm.trans hclosed
  | register client server => cases hopen
  | accept id bridge => cases hopen
  | outdate id bridge => cases hopen
  | withdraw id bridge => cases hopen
  | close id bridge => cases hopen
  | conclude id bridge => cases hopen

end Backend

namespace Service

variable {c : Config} {s s' : Service} {port : ProxyPort} {p p' : Scope} {action : Action}

theorem is_open_iff {client : Client} :
    s.isOpen client = true ↔ ∃ call, s.call? client = some call ∧ call.isOpen = true := by
  unfold isOpen
  cases hcall : s.call? client with
  | none => simp
  | some call =>
      obtain ⟨generation, stage⟩ := call
      cases stage with
      | bridged id bridge point => cases point <;> simp [Call.isOpen]
      | dialing _ => simp [Call.isOpen]
      | failed _ _ => simp [Call.isOpen]
      | dialed _ _ => simp [Call.isOpen]

theorem call_eq_some_iff {client : Client} {call : Call} :
    s.call? client = some call ↔
      ∃ b, s.backends[client.backend]? = some b ∧ b.calls[client.call]? = some call :=
  Option.bind_eq_some_iff

/-! ## Steps of calls -/

/-- Whether a session is open is told by the call of its client. -/
theorem is_open_of_has_call {g : Nat} {client : Client} {b : Backend} {call : Call}
    (h : s.HasCall g client b call) : s.isOpen client = call.isOpen := by
  have hcall : s.call? client = some call := call_eq_some_iff.mpr ⟨b, h.backend_get, h.call_get⟩
  rw [Bool.eq_iff_iff, is_open_iff]
  constructor
  · rintro ⟨call', hcall', hopen⟩
    obtain rfl := Option.some.inj (hcall.symm.trans hcall')
    exact hopen
  · exact fun hopen => ⟨call, hcall, hopen⟩

/-- A step of the call of one client leaves the session of another one open. -/
theorem Calm.open_of_other_call (hcalm : s.Calm c) {g m : Nat} {client d : Client} {b : Backend}
    {call : Call} (h : s.HasCall g client b call) (hd : s.clients[m]? = some d) (hne : m ≠ g)
    (hopen : s.isOpen d = true) (registry : Registry) (next : Call) :
    (s.withCall client b registry next).isOpen d = true := by
  obtain ⟨own, hown, hisOpen⟩ := is_open_iff.mp hopen
  obtain ⟨b', hb', hcall'⟩ := call_eq_some_iff.mp hown
  refine is_open_iff.mpr ⟨own, call_eq_some_iff.mpr ?_, hisOpen⟩
  rw [withCall, getElem?_set_of_getElem? h.backend_get]
  split
  · -- both have their calls at the same backend
    rename_i hsame
    rw [← hsame] at hb'
    obtain rfl := Option.some.inj (h.backend_get.symm.trans hb')
    have hother := hcalm.call_ne hd h.client_get hne hsame.symm h.backend_get
    exact ⟨_, rfl, by rw [Backend.with_call_get h.call_get, if_neg hother.symm, hcall']⟩
  · exact ⟨b', hb', hcall'⟩

/-- A session that has ended with a step of a call was that of the client whose call it is. -/
theorem Calm.own_call_of_ended (hcalm : s.Calm c) {g m : Nat} {client d : Client} {b : Backend}
    {call next : Call} {registry : Registry} (h : s.HasCall g d b call)
    (hclient : s.clients[m]? = some client) (hopen : s.isOpen client = true)
    (hended : (s.withCall d b registry next).isOpen client = false) :
    d = client ∧ call.isOpen = true ∧ next.isOpen = false := by
  obtain rfl : m = g := by
    by_contra hne
    cases (hcalm.open_of_other_call h hclient hne hopen registry next).symm.trans hended
  obtain rfl := Option.some.inj (h.client_get.symm.trans hclient)
  exact ⟨rfl, (is_open_of_has_call h).symm.trans hopen,
    (is_open_of_has_call (h.with_call registry next)).symm.trans hended⟩

/-- A call ends a session only if it is that of the session, and one of its sides has hung up. -/
theorem Calm.session_ends_of_call (hcalm : s.Calm c) {now : Moment} {time : Timestamp}
    {effects : List (Component × Effect)} (hstep : s.step now time action = some (s', effects))
    {g : Nat} (hcaller : action.caller? = some g) {client : Client} (hclient : client ∈ s.clients)
    (hopen : s.isOpen client = true) (hended : s'.isOpen client = false) :
    action = .stepCall g ∧ s.clients[g]? = some client ∧ s.isHungUp client = true := by
  obtain ⟨m, hm⟩ := List.getElem?_of_mem hclient
  have hplaced := hcalm.sound.placed
  have hfar : ∀ (side : FarEnd) (event : Duplex.FarEvent),
      s.step now time (.far side g event) ≠ some (s', effects) := by
    intro side event heq
    obtain ⟨d, b, call, hcall, rfl⟩ := (far_event_iff hplaced side event).mp ⟨effects, heq⟩
    obtain ⟨-, hbefore, hafter⟩ := hcalm.own_call_of_ended hcall hm hopen hended
    rw [Call.is_open_map_far, hbefore] at hafter
    cases hafter
  cases action with
  | stepCall n =>
      obtain rfl := Option.some.inj hcaller
      obtain ⟨d, b, call, registry, stage, hcall, hadvance, rfl⟩ :=
        (step_call_iff hplaced).mp ⟨effects, hstep⟩
      obtain ⟨rfl, hbefore, hafter⟩ := hcalm.own_call_of_ended hcall hm hopen hended
      refine ⟨rfl, hcall.client_get, ?_⟩
      rw [isHungUp, call_eq_some_iff.mpr ⟨b, hcall.backend_get, hcall.call_get⟩]
      have htruthful := hcalm.quiet.truthful b (List.mem_of_getElem? hcall.backend_get) call
        (List.mem_of_getElem? hcall.call_get)
      have hconsistent := hcalm.sound.consistent hcall.backend_get
      rcases hadvance.open_or_hung_up htruthful hconsistent hcall.call_get hbefore with
        hstays | hhungUp
      · cases hafter.symm.trans hstays
      · exact hhungUp
  | endDial n result =>
      obtain rfl := Option.some.inj hcaller
      obtain ⟨d, b, ⟨generation, stage⟩, duplex, hcall, rfl, rfl⟩ :=
        (end_dial_iff hplaced result).mp ⟨effects, hstep⟩
      obtain ⟨-, hbefore, -⟩ := hcalm.own_call_of_ended hcall hm hopen hended
      cases hbefore
  | clientEvent n event =>
      obtain rfl := Option.some.inj hcaller
      exact absurd hstep (hfar .client event)
  | serverEvent n event =>
      obtain rfl := Option.some.inj hcaller
      exact absurd hstep (hfar .server event)
  | _ => cases hcaller

/-! ## Steps of runners -/

/-- A runner ends a session only at the backend that it severs, because that is replaced. -/
theorem Calm.session_ends_of_runner (hcalm : s.Calm c) {q : ProxyPort} {pick : Nat}
    {effects : List (Component × Effect)} (hstep : s.stepRunner q pick = some (s', effects))
    {client : Client} (hopen : s.isOpen client = true) (hended : s'.isOpen client = false) :
    s.Replaces q client.backend := by
  obtain ⟨lane, runner, backends, shown, hlane, hchange, rfl⟩ := step_runner_iff.mp ⟨effects, hstep⟩
  obtain ⟨i, k, change, b, htask, hb, hcases⟩ := Runner.step_change_cases hchange
  have hreplaces : client.backend = i → s.Replaces q client.backend := by
    rintro rfl
    obtain ⟨hactive, e, rfl, hne⟩ := (hcalm.quiet.electing hlane).severing htask
    exact ⟨lane, k, e, hlane, htask, hactive, hne⟩
  by_contra hnot
  -- nothing changes at the backend of the client
  have hkept : backends[client.backend]? = s.backends[client.backend]? := by
    rcases hcases with ⟨-, -, rfl⟩ | ⟨next, -, -, -, rfl⟩
    · rfl
    · exact List.getElem?_set_ne fun hi => hnot (hreplaces hi.symm)
  obtain ⟨call, hcall, hisOpen⟩ := is_open_iff.mp hopen
  have hcall' : (s.withLane q { lane with runner } backends).call? client = some call := by
    rw [← hcall, call?, call?, with_lane_backends, hkept]
  cases (is_open_iff.mpr ⟨call, hcall', hisOpen⟩).symm.trans hended

/-! ## Other steps -/

/-- Every call is where it was. -/
def CallsStay (backends backends' : List Backend) : Prop :=
  ∀ ⦃j i : Nat⦄ ⦃b : Backend⦄ ⦃call : Call⦄, backends[j]? = some b → b.calls[i]? = some call →
    ∃ b', backends'[j]? = some b' ∧ b'.calls[i]? = some call

theorem CallsStay.refl (backends : List Backend) : CallsStay backends backends :=
  fun _ _ b _ hb hcall => ⟨b, hb, hcall⟩

theorem CallsStay.set {backends : List Backend} {j : Nat} {b b' : Backend}
    (hb : backends[j]? = some b)
    (h : ∀ (i : Nat) (call : Call), b.calls[i]? = some call → b'.calls[i]? = some call) :
    CallsStay backends (backends.set j b') := by
  intro k i d call hd hcall
  rw [getElem?_set_of_getElem? hb]
  split
  · subst k
    obtain rfl := Option.some.inj (hb.symm.trans hd)
    exact ⟨b', rfl, h i call hcall⟩
  · exact ⟨d, hd, hcall⟩

theorem CallsStay.begin_change (r : Runner) (backends : List Backend) (change : Runner.Change) :
    CallsStay backends (r.beginChange backends change).2.1 := by
  rcases r.begin_change_cases backends change with ⟨-, heq, -⟩ | ⟨i, b, -, hb, -, heq⟩
  · rw [heq]
    exact .refl backends
  · rw [heq]
    exact .set hb fun _ _ hcall => hcall

/-- Only runners that sever and calls themselves change calls that there are. -/
theorem Scope.Step.calls_stay (h : p.Step port action p')
    (hrunner : ∀ q pick, action ≠ .stepRunner q pick) (hcaller : action.isOfCall = false) :
    CallsStay p.backends p'.backends := by
  cases h with
  | finishCycle hfinish =>
      intro j i b call hb hcall
      have hhealth := congrArg (fun l => l[j]?) (Monitor.finish_cycle_without_health hfinish)
      simp only [List.getElem?_map, hb, Option.map_some] at hhealth
      obtain ⟨b', hb', heq⟩ := Option.map_eq_some_iff.mp hhealth
      have hcalls : b'.withoutHealth.calls = b.withoutHealth.calls := congrArg Backend.calls heq
      exact ⟨b', hb', (congrArg (fun l => l[i]?) hcalls).trans hcall⟩
  | takeElection => exact .begin_change ..
  | takeTraffic => exact .begin_change ..
  | stepRunner pick => exact absurd rfl (hrunner _ pick)
  | @connect client =>
      rcases p.lane.runner.accept_cases p.backends client with heq | ⟨i, b, -, hb, heq⟩
      · rw [heq]
        exact .refl _
      · rw [heq]
        refine .set hb fun i call hcall => ?_
        exact (List.getElem?_append_left (List.getElem?_eq_some_iff.mp hcall).1).trans hcall
  | ofCall hcall => cases hcall.symm.trans hcaller
  | _ => exact .refl _

/-- A session is open as long as its call stays. -/
theorem is_open_of_calls_stay {client : Client} (hstay : CallsStay s.backends s'.backends)
    (hopen : s.isOpen client = true) : s'.isOpen client = true := by
  obtain ⟨call, hcall, hisOpen⟩ := is_open_iff.mp hopen
  obtain ⟨b, hb, hcall⟩ := call_eq_some_iff.mp hcall
  obtain ⟨b', hb', hcall'⟩ := hstay hb hcall
  exact is_open_iff.mpr ⟨call, call_eq_some_iff.mpr ⟨b', hb', hcall'⟩, hisOpen⟩

/-- No client leaves. -/
theorem clients_stay (hcalm : s.Calm c) (hquiet : action.isQuiet = true) {now : Moment}
    {time : Timestamp} {effects : List (Component × Effect)}
    (hstep : s.step now time action = some (s', effects)) {client : Client}
    (hclient : client ∈ s.clients) : client ∈ s'.clients := by
  obtain ⟨q, lane, lane', -, -, -, -, hscope⟩ :=
    step_progress hcalm.sound.is_running (ordinary_of_quiet hquiet) hstep
  have hmem : client ∈ (s'.scope lane').clients := by
    rcases hscope.clients_cases with heq | ⟨i, new, -, -, heq⟩
    · rw [heq]
      exact hclient
    · rw [heq]
      exact List.mem_append_left _ hclient
  exact hmem

/-! ## How sessions end -/

theorem mem_sessions {client : Client} :
    client ∈ s.sessions port ↔
      client ∈ s.clients ∧ client.port = port ∧ s.isOpen client = true := by
  simp [sessions]

/-- As long as nobody toggles the traffic switch, a session ends because one of its sides has hung
up, or because the runner of one of the two ports severs its backend, which is replaced there. -/
theorem Calm.session_ends (hcalm : s.Calm c) (hquiet : action.isQuiet = true) {now : Moment}
    {time : Timestamp} {effects : List (Component × Effect)}
    (hstep : s.step now time action = some (s', effects)) {client : Client}
    (hbefore : client ∈ s.sessions port) (hafter : client ∉ s'.sessions port) :
    (∃ n, action = .stepCall n ∧ s.clients[n]? = some client ∧ s.isHungUp client = true) ∨
      ∃ q pick, action = .stepRunner q pick ∧ s.Replaces q client.backend := by
  obtain ⟨hclient, hport, hopen⟩ := mem_sessions.mp hbefore
  have hended : s'.isOpen client = false := by
    rw [← Bool.not_eq_true]
    exact fun hstays =>
      hafter (mem_sessions.mpr ⟨clients_stay hcalm hquiet hstep hclient, hport, hstays⟩)
  by_cases hrunner : ∃ q pick, action = .stepRunner q pick
  · obtain ⟨q, pick, rfl⟩ := hrunner
    exact .inr ⟨q, pick, rfl, hcalm.session_ends_of_runner hstep hopen hended⟩
  cases hcaller : action.caller? with
  | some g =>
      obtain ⟨rfl, hget, hhungUp⟩ :=
        hcalm.session_ends_of_call hstep hcaller hclient hopen hended
      exact .inl ⟨g, rfl, hget, hhungUp⟩
  | none =>
      obtain ⟨q, lane, lane', -, -, -, -, hscope⟩ :=
        step_progress hcalm.sound.is_running (ordinary_of_quiet hquiet) hstep
      have hstay : CallsStay s.backends s'.backends :=
        hscope.calls_stay (fun q pick heq => hrunner ⟨q, pick, heq⟩)
          (by cases action <;> first | rfl | cases hcaller)
      cases (is_open_of_calls_stay hstay hopen).symm.trans hended

end Service

end GaleraProxy
