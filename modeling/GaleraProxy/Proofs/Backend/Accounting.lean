import GaleraProxy.Proofs.Backend.Recording

/-!
# The sessions of a backend are accounted for

`sessions_accounted` says that whenever a backend is settled all numbers of sessions that it shows
agree with the calls that are being served, and what an operation does to its generation, its health
and the errors of its calls. Only the operation itself can do something to these; what goes on after
it finds the calls of a new generation idle.
-/

namespace GaleraProxy.Backend

variable {b b' next : Backend} {effects : List Effect}

/-! ## What goes on by itself -/

/-- What the end of its dial makes of a call. -/
theorem end_dial_of_dialing {i generation : Nat} {client : Duplex}
    (hc : b.calls[i]? = some ⟨generation, .dialing client⟩) (result : Except String Duplex) :
    b.endDial i result = b.withCall b.registry i ⟨generation,
      match result with
      | .ok server => .dialed client server
      | .error detail => .failed client.drop (b.dialError detail)⟩ := by
  cases result <;> simp only [endDial, hc, set_stage_eq hc]

/-- The end of a dial does nothing to a call that is not dialing. -/
theorem end_dial_cases (b : Backend) (i : Nat) (result : Except String Duplex) :
    b.endDial i result = b ∨
      ∃ generation client, b.calls[i]? = some ⟨generation, .dialing client⟩ := by
  unfold endDial
  split
  · exact .inr ⟨_, _, ‹_›⟩
  · exact .inl rfl

/-- Only a sever raises the generation. -/
theorem step_generation {action : Action} (hother : action ≠ .beginSever)
    (h : b.step action = some (next, effects)) : next.generation = b.generation := by
  cases action with
  | stepCall i =>
      obtain ⟨c, registry, stage, hc, hadvance, rfl⟩ := step_call_cases h
      rfl
  | stepSever k pick => cases step_sever_cases h <;> rfl
  | beginSever => exact absurd rfl hother
  | endDial i result =>
      obtain ⟨rfl, -⟩ := Prod.mk.inj (Option.some.inj h)
      rcases b.end_dial_cases i result with heq | ⟨generation, client, hc⟩
      · rw [heq]
      · rw [end_dial_of_dialing hc]
        rfl
  | beginCall | clientEvent | serverEvent | setHealthy =>
      obtain ⟨rfl, -⟩ := Prod.mk.inj (Option.some.inj h)
      rfl

/-- What goes on by itself keeps the health. -/
theorem step_healthy {action : Action} (haction : action.isOperation = false)
    (h : b.step action = some (next, effects)) : next.healthy = b.healthy := by
  cases action with
  | stepCall i =>
      obtain ⟨c, registry, stage, hc, hadvance, rfl⟩ := step_call_cases h
      rfl
  | stepSever k pick => cases step_sever_cases h <;> rfl
  | beginCall | endDial | beginSever | clientEvent | serverEvent | setHealthy => cases haction

theorem Action.ne_begin_sever {action : Action} (h : action.isOperation = false) :
    action ≠ .beginSever := by
  rintro rfl
  cases h

/-- What is kept by all that goes on by itself holds once the backend is settled. -/
theorem going_on_induction {P : Backend → Prop}
    (hstep : ∀ {b next : Backend} {action : Action} {effects : List Effect}, P b →
      action.isOperation = false → b.step action = some (next, effects) → P next)
    {steps : List Action} {b last : Backend} {shown : List Effect}
    (hsteps : ∀ action ∈ steps, action.isOperation = false)
    (hrun : runSteps step b steps = some (last, shown)) (h : P b) : P last := by
  induction steps generalizing b shown with
  | nil =>
      obtain ⟨rfl, -⟩ := Prod.mk.inj (Option.some.inj hrun)
      exact h
  | cons action rest ih =>
      obtain ⟨next, first, others, hnext, hrest, -⟩ := run_steps_cons.mp hrun
      obtain ⟨haction, hrests⟩ := List.forall_mem_cons.mp hsteps
      exact ih hrests hrest (hstep h haction hnext)

/-- Calls of later generations than the given one do nothing by themselves. -/
def Past (b : Backend) (n : Nat) : Prop :=
  ∀ {i : Nat} {c : Call}, b.calls[i]? = some c → n < c.generation → c.standing.isIdle = true

/-- No call of a settled backend that is being served is of a later generation. -/
theorem Consistent.past (h : b.Consistent) (hsettled : b.Settled) : b.Past b.generation := by
  intro i c hc hlt
  obtain ⟨generation, stage⟩ := c
  cases stage with
  | dialing | failed => rfl
  | dialed client server =>
      have hnone := hsettled.calls i
      simp [stepCall, hc] at hnone
  | bridged id bridge point =>
      rcases h.waiting_cases hc rfl (hsettled.calls i) with ⟨rfl, -, -⟩ | ⟨rfl, -⟩
      · have hle := (h.custody hc rfl).past rfl
        rw [← h.generation_eq] at hle
        exact absurd hlt (Nat.not_lt.mpr hle)
      · rfl

theorem Advance.not_idle {generation : Nat} {registry : Registry} {stage stage' : Call.Stage}
    (h : Advance b generation stage registry stage') :
    (Call.standing ⟨generation, stage⟩).isIdle = false := by
  cases h <;> rfl

theorem Past.step {n : Nat} (h : b.Past n) {action : Action}
    (haction : action.isOperation = false) (hstep : b.step action = some (next, effects)) :
    next.Past n := by
  cases action with
  | beginCall | endDial | beginSever | clientEvent | serverEvent | setHealthy => cases haction
  | stepCall j =>
      obtain ⟨c, registry, stage, hc, hadvance, rfl⟩ := step_call_cases hstep
      intro i d hd hlt
      rw [with_call_get hc] at hd
      split at hd
      · obtain rfl := Option.some.inj hd
        cases (h hc hlt).symm.trans hadvance.not_idle
      · exact h hd hlt
  | stepSever k pick =>
      cases step_sever_cases hstep with
      | sweep | conclude => exact h
      | close ids pick id =>
          intro i d hd hlt
          obtain ⟨c, hc, rfl⟩ := Option.map_eq_some_iff.mp ((List.getElem?_map ..).symm.trans hd)
          rw [Call.close_bridge_standing]
          exact h hc (close_bridge_generation id c ▸ hlt)

/-! ## Calls with errors -/

/-- A call has returned an error. -/
def RefusedAt (b : Backend) (i : Nat) (error : ProxyError) : Prop :=
  b.calls[i]?.map Call.outcome = some (.refused error)

theorem refused_at_iff {i : Nat} {error : ProxyError} : b.RefusedAt i error ↔
    ∃ c, b.calls[i]? = some c ∧ c.standing = .failed error := by
  simp only [RefusedAt, Option.map_eq_some_iff, Call.outcome_eq_refused]

/-- A call is given an error by the end of its dial only. -/
theorem step_refused {action : Action} (h : b.step action = some (next, effects)) {i : Nat}
    {error : ProxyError} (hrefused : next.RefusedAt i error) :
    b.RefusedAt i error ∨ ∃ detail generation client, action = .endDial i (.error detail) ∧
      b.calls[i]? = some ⟨generation, .dialing client⟩ ∧ error = b.dialError detail := by
  rw [refused_at_iff] at hrefused ⊢
  obtain ⟨d, hd, hfailed⟩ := hrefused
  -- a call that stands where it stood had its error before
  have hmodified : ∀ {j : Nat} {f : Call → Call}, (∀ c, (f c).standing = c.standing) →
      (b.modifyCall j f).calls[i]? = some d →
      ∃ c, b.calls[i]? = some c ∧ c.standing = .failed error := by
    intro j f hf hd'
    rw [modifyCall, List.getElem?_modify] at hd'
    obtain ⟨c, hc, rfl⟩ := Option.map_eq_some_iff.mp hd'
    refine ⟨c, hc, ?_⟩
    split at hfailed
    · exact (hf c).symm.trans hfailed
    · exact hfailed
  cases action with
  | stepCall j =>
      obtain ⟨⟨generation, before⟩, registry, stage, hc, hadvance, rfl⟩ := step_call_cases h
      rw [with_call_get hc] at hd
      split at hd
      · obtain rfl := Option.some.inj hd
        cases hadvance <;> cases hfailed
      · exact .inl ⟨d, hd, hfailed⟩
  | stepSever k pick =>
      cases step_sever_cases h with
      | sweep | conclude => exact .inl ⟨d, hd, hfailed⟩
      | close ids pick id =>
          obtain ⟨c, hc, rfl⟩ := Option.map_eq_some_iff.mp ((List.getElem?_map ..).symm.trans hd)
          exact .inl ⟨c, hc, (c.close_bridge_standing id).symm.trans hfailed⟩
  | beginCall client generation =>
      obtain ⟨rfl, -⟩ := Prod.mk.inj (Option.some.inj h)
      rw [beginCall, List.getElem?_append] at hd
      split at hd
      · exact .inl ⟨d, hd, hfailed⟩
      · obtain rfl := List.mem_singleton.mp (List.mem_of_getElem? hd)
        cases hfailed
  | endDial j result =>
      obtain ⟨rfl, -⟩ := Prod.mk.inj (Option.some.inj h)
      rcases b.end_dial_cases j result with heq | ⟨generation, client, hc⟩
      · exact .inl ⟨d, heq ▸ hd, hfailed⟩
      · rw [end_dial_of_dialing hc, with_call_get hc] at hd
        split at hd
        · subst j
          obtain rfl := Option.some.inj hd
          cases result with
          | ok server => cases hfailed
          | error detail =>
              obtain rfl := Call.Standing.failed.inj hfailed
              exact .inr ⟨detail, generation, client, rfl, hc, rfl⟩
        · exact .inl ⟨d, hd, hfailed⟩
  | clientEvent j event =>
      obtain ⟨rfl, -⟩ := Prod.mk.inj (Option.some.inj h)
      exact .inl (hmodified (Call.map_client_standing _) hd)
  | serverEvent j event =>
      obtain ⟨rfl, -⟩ := Prod.mk.inj (Option.some.inj h)
      exact .inl (hmodified (Call.map_server_standing _) hd)
  | beginSever | setHealthy =>
      obtain ⟨rfl, -⟩ := Prod.mk.inj (Option.some.inj h)
      exact .inl ⟨d, hd, hfailed⟩

/-- Whether a call can advance is up to where it stands. -/
theorem Advance.of_stage {generation : Nat} {registry : Registry} {stage stage' : Call.Stage}
    (h : Advance b generation stage registry stage') (b' : Backend) :
    ∃ registry' stage'', Advance b' generation stage registry' stage'' := by
  cases h with
  | register client server => exact ⟨_, _, .register client server⟩
  | accept id bridge | outdate id bridge =>
      by_cases heq : b'.generation = generation
      · exact ⟨_, _, .accept id bridge heq⟩
      · exact ⟨_, _, .outdate id bridge heq⟩
  | withdraw id bridge => exact ⟨_, _, .withdraw id bridge⟩
  | close id bridge => exact ⟨_, _, .close id bridge⟩
  | connect id bridge => exact ⟨_, _, .connect id bridge⟩
  | copy id bridge next hstep => exact ⟨_, _, .copy id bridge next hstep⟩
  | finish id bridge hphase => exact ⟨_, _, .finish id bridge hphase⟩
  | conclude id bridge => exact ⟨_, _, .conclude id bridge⟩

/-- Whether a call waits is up to that call. -/
theorem step_call_none_of_get {i : Nat} (hget : b'.calls[i]? = b.calls[i]?)
    (h : b.stepCall i = none) : b'.stepCall i = none := by
  cases hstep : b'.stepCall i with
  | none => rfl
  | some result =>
      obtain ⟨c, registry, stage, hc, hadvance, -⟩ := step_call_cases hstep
      obtain ⟨registry', stage', hadvance'⟩ := hadvance.of_stage b
      obtain ⟨effects, hsome⟩ := step_call_of_advance (hget ▸ hc) hadvance'
      cases h.symm.trans hsome

/-- A dial that fails leaves the backend settled. -/
theorem Settled.fail (h : b.Settled) {i generation : Nat} {client : Duplex}
    (hc : b.calls[i]? = some ⟨generation, .dialing client⟩) (detail : String) :
    (b.endDial i (.error detail)).Settled := by
  rw [end_dial_of_dialing hc]
  refine settled_iff.mpr ⟨fun j _ => ?_, (settled_iff.mp h).2⟩
  by_cases hij : i = j
  · subst hij
    simp [stepCall, with_call_get hc]
  · exact step_call_none_of_get (by rw [with_call_get hc, if_neg hij]) (h.calls j)

/-- Nothing goes on by itself in a settled backend. -/
theorem Settled.stays (h : b.Settled) {steps : List Action} {shown : List Effect}
    (hsteps : ∀ action ∈ steps, action.isOperation = false)
    (hrun : runSteps step b steps = some (b', shown)) : b' = b := by
  cases steps with
  | nil => exact (Prod.mk.inj (Option.some.inj hrun)).1.symm
  | cons action rest =>
      obtain ⟨next, first, others, hstep, -, -⟩ := run_steps_cons.mp hrun
      have haction := hsteps action List.mem_cons_self
      cases action with
      | stepCall i => cases (h.calls i).symm.trans hstep
      | stepSever k pick => cases (h.severs k pick).symm.trans hstep
      | beginCall | endDial | beginSever | clientEvent | serverEvent | setHealthy =>
          cases haction

/-! ## The accounts -/

/-- Every number of sessions that is shown is the number of calls that are being served. -/
structure Tallies (b : Backend) (g : Gauges) : Prop where
  counted : b.sessions = b.served
  snapshot : ∃ fields, b.toJson = .object fields ∧
    fields.lookup "currentSessionCount" = some (.nat b.served)
  described : ∃ front,
    b.describe = front ++ ", sessions: " ++ toString b.served ++ " \x7d"
  gauge : ∀ n, g.get? b.name = some n → n = b.served
  /-- The gauge exists from the first call on that got past its dial, or the first sever. -/
  gauge_isSome : (g.get? b.name).isSome = true ↔
    (∃ c ∈ b.calls, c.stage.bridgeId?.isSome = true) ∨ .returned ∈ b.severs

/-- Once there is a gauge, it shows the number of calls that are being served. -/
theorem Tallies.gauge_eq {g : Gauges} (h : b.Tallies g)
    (hrecord : (∃ c ∈ b.calls, c.stage.bridgeId?.isSome = true) ∨ .returned ∈ b.severs) :
    g.get? b.name = some b.served := by
  obtain ⟨n, hn⟩ := Option.isSome_iff_exists.mp (h.gauge_isSome.mpr hrecord)
  rw [hn, h.gauge n hn]

/-- The error of a call to a configured backend whose dial failed. -/
def configuredDialError (c : BackendConfig) (detail : String) : ProxyError :=
  .backendDial c.name (c.host ++ ":" ++ toString c.port.toNat) detail

/-- What an operation does to the generation, the health and the errors of a configured backend. -/
structure Accounts (c : BackendConfig) (b : Backend) (operation : Action) (b' : Backend) :
    Prop where
  sever : operation = .beginSever →
    b'.generation = b.generation + 1 ∧ b'.sessions = 0 ∧ b'.healthy = b.healthy
  generation : operation ≠ .beginSever → b'.generation = b.generation
  failed : ∀ {i generation : Nat} {client : Duplex} {detail : String},
    operation = .endDial i (.error detail) →
    b.calls[i]? = some ⟨generation, .dialing client⟩ →
    b'.RefusedAt i (configuredDialError c detail) ∧ b'.sessions = b.sessions ∧
      b'.generation = b.generation ∧ b'.healthy = b.healthy
  /-- A call returns an error only if its dial failed. -/
  refused : ∀ {i : Nat} {error : ProxyError}, b'.RefusedAt i error → b.RefusedAt i error ∨
    ∃ detail generation client, operation = .endDial i (.error detail) ∧
      b.calls[i]? = some ⟨generation, .dialing client⟩ ∧ error = configuredDialError c detail

/-- What holds of a backend after a history, with the gauges. -/
structure Kept (c : BackendConfig) (b : Backend) (g : Gauges) : Prop where
  consistent : b.Consistent
  configured : b.asConfigured = ofConfig c
  recorded : b.Recorded g

theorem Kept.step {c : BackendConfig} {g : Gauges} (h : Kept c b g) {action : Action}
    (hstep : b.step action = some (next, effects)) : Kept c next (g.after effects) where
  consistent := h.consistent.step hstep
  configured := (step_as_configured hstep).trans h.configured
  recorded := h.recorded.step hstep

/-- A configured backend has recorded nothing. -/
theorem of_config_recorded {c : BackendConfig} {g : Gauges} (hg : g.get? c.name = none) :
    (ofConfig c).Recorded g := by
  have hget : g.get? (ofConfig c).name = none := hg
  constructor
  · rw [hget]
    refine iff_of_false nofun ?_
    rintro (⟨i, d, hd, -⟩ | ⟨k, hk⟩)
    · cases hd
    · cases hk
  · intro n hn
    cases hget.symm.trans hn

theorem History.kept {c : BackendConfig} {seen : List Effect} (h : History c b seen) {g : Gauges}
    (hg : g.get? c.name = none) : Kept c b (g.after seen) := by
  induction h with
  | nil =>
      exact ⟨of_config_consistent c, rfl, of_config_recorded hg⟩
  | operate operation hhistory hoperates ih =>
      obtain ⟨-, -, steps, -, hrun⟩ := hoperates
      exact run_steps_induction (P := fun b seen => Kept c b (g.after seen))
        (fun hkept hstep => by
          rw [Gauges.after_append]
          exact hkept.step hstep) hrun ih

theorem History.settled {c : BackendConfig} {seen : List Effect} (h : History c b seen) :
    b.Settled := by
  cases h with
  | nil => exact ⟨fun i => rfl, fun k pick => rfl⟩
  | operate operation hhistory hoperates => exact hoperates.2.1

theorem Kept.tallies {c : BackendConfig} {g : Gauges} (h : Kept c b g) (hsettled : b.Settled) :
    b.Tallies g where
  counted := h.consistent.sessions_eq_served hsettled
  snapshot := by
    rw [← h.consistent.sessions_eq_served hsettled]
    exact ⟨_, rfl, rfl⟩
  described := by
    rw [← h.consistent.sessions_eq_served hsettled]
    unfold describe
    exact ⟨_, rfl⟩
  gauge := fun n hn => by
    rw [← h.consistent.sessions_eq_served hsettled]
    exact (h.recorded.value n hn).resolve_right hsettled.not_owes
  gauge_isSome := h.recorded.exists_iff.trans (h.consistent.has_recorded_iff hsettled)

theorem Kept.dial_error {c : BackendConfig} {g : Gauges} (h : Kept c b g) (detail : String) :
    b.dialError detail = configuredDialError c detail :=
  congrArg (dialError · detail) h.configured

/-- An operation that is not a sever settles in the same generation. -/
theorem Operates.generation_eq {operation : Action} {shown : List Effect}
    (h : b.Operates operation b' shown) (hother : operation ≠ .beginSever) :
    b'.generation = b.generation := by
  obtain ⟨begun, first, others, steps, hstep, hsteps, hrun, -⟩ := h.cases
  exact going_on_induction (P := fun later => later.generation = b.generation)
    (fun heq haction hnext => (step_generation (Action.ne_begin_sever haction) hnext).trans heq)
    hsteps hrun (step_generation hother hstep)

/-- A sever that settles has begun a generation and left no session. -/
theorem Kept.sever {c : BackendConfig} {g : Gauges} (h : Kept c b g) (hsettled : b.Settled)
    {shown : List Effect} (hoperates : b.Operates .beginSever b' shown) :
    b'.generation = b.generation + 1 ∧ b'.sessions = 0 ∧ b'.healthy = b.healthy := by
  obtain ⟨begun, first, others, steps, hstep, hsteps, hrun, -⟩ := hoperates.cases
  obtain ⟨rfl, -⟩ := Prod.mk.inj (Option.some.inj hstep)
  obtain ⟨hgeneration, hhealthy, hconsistent, hpast⟩ := going_on_induction
    (P := fun later => later.generation = b.generation + 1 ∧ later.healthy = b.healthy ∧
      later.Consistent ∧ later.Past b.generation)
    (fun ⟨hgeneration, hhealthy, hconsistent, hpast⟩ haction hnext =>
      ⟨(step_generation (Action.ne_begin_sever haction) hnext).trans hgeneration,
        (step_healthy haction hnext).trans hhealthy, hconsistent.step hnext,
        hpast.step haction hnext⟩)
    hsteps hrun ⟨rfl, rfl, h.consistent.begin_sever, h.consistent.past hsettled⟩
  refine ⟨hgeneration, ?_, hhealthy⟩
  rw [sessions, Registry.size, List.length_eq_zero_iff, List.eq_nil_iff_forall_not_mem]
  -- a registered bridge would be that of a call of the new generation
  intro id hid
  obtain ⟨i, ⟨generation, stage⟩, bridge, point, hcall, rfl, hopen⟩ :=
    hconsistent.open_of_registered hid fun {i _} _ => hoperates.2.1.calls i
  have hwaits := hoperates.2.1.calls i
  have hle := (hconsistent.present_of_open hoperates.2.1.severs_returned hcall rfl hwaits hopen).2
  have hidle := hpast hcall (by omega)
  rcases hconsistent.waiting_cases hcall rfl hwaits with ⟨rfl, -, -⟩ | ⟨-, hclosed⟩
  · cases hidle
  · cases hopen.symm.trans hclosed

/-- A dial that fails is all that happens. -/
theorem Settled.operates_fail (h : b.Settled) {i generation : Nat} {client : Duplex}
    (hc : b.calls[i]? = some ⟨generation, .dialing client⟩) {detail : String} {shown : List Effect}
    (hoperates : b.Operates (.endDial i (.error detail)) b' shown) :
    b' = b.withCall b.registry i ⟨generation, .failed client.drop (b.dialError detail)⟩ := by
  obtain ⟨begun, first, others, steps, hstep, hsteps, hrun, -⟩ := hoperates.cases
  obtain ⟨rfl, -⟩ := Prod.mk.inj (Option.some.inj hstep)
  exact ((h.fail hc detail).stays hsteps hrun).trans (end_dial_of_dialing hc _)

/-- A call that has an error after an operation had it before, or its dial has just failed. -/
theorem Operates.refused {operation : Action} {shown : List Effect}
    (h : b.Operates operation b' shown) {i : Nat} {error : ProxyError}
    (hrefused : b'.RefusedAt i error) :
    b.RefusedAt i error ∨ ∃ detail generation client, operation = .endDial i (.error detail) ∧
      b.calls[i]? = some ⟨generation, .dialing client⟩ ∧ error = b.dialError detail := by
  obtain ⟨begun, first, others, steps, hstep, hsteps, hrun, -⟩ := h.cases
  have hbegun : b'.RefusedAt i error → begun.RefusedAt i error :=
    going_on_induction (P := fun later => later.RefusedAt i error → begun.RefusedAt i error)
      (fun hback haction hnext hrefused => by
        rcases step_refused hnext hrefused with hbefore | ⟨detail, generation, client, rfl, -⟩
        · exact hback hbefore
        · cases haction)
      hsteps hrun id
  exact step_refused hstep (hbegun hrefused)

/-- For every sequence of operations on a configured backend, each of which has settled before the
next one begins, in whatever order calls and severs go on: the number of sessions, that of the
snapshot and of the description, and the gauge once there is one, are the number of calls that got
past a successful dial and the check of their generation and have not returned. There is a gauge
once a call got past its dial or a sever has returned, and none before. Any further operation
settles. A failed dial returns an error with the name and the address of the backend and changes
neither sessions nor generation nor health, and no call returns another error. A sever raises the
generation by one, leaves no session and keeps the health; nothing else changes the generation. -/
theorem sessions_accounted {c : BackendConfig} {b : Backend} {seen : List Effect} {g : Gauges}
    (hg : g.get? c.name = none) (h : History c b seen) :
    b.Tallies (g.after seen) ∧
      (∀ operation : Action, operation.isOperation = true →
        ∃ b' shown, b.Operates operation b' shown) ∧
      ∀ (operation : Action) (b' : Backend) (shown : List Effect),
        b.Operates operation b' shown → Accounts c b operation b' := by
  have hkept := h.kept hg
  have hsettled := h.settled
  refine ⟨hkept.tallies hsettled, fun operation => b.operation_settles,
    fun operation b' shown hoperates => ?_⟩
  exact {
    sever := by
      rintro rfl
      exact hkept.sever hsettled hoperates
    generation := hoperates.generation_eq
    failed := by
      rintro i generation client detail rfl hc
      obtain rfl := hsettled.operates_fail hc hoperates
      refine ⟨?_, rfl, rfl, rfl⟩
      rw [RefusedAt, with_call_get hc, if_pos rfl, hkept.dial_error]
      rfl
    refused := fun hrefused => by
      simpa only [hkept.dial_error] using hoperates.refused hrefused }

/-- A client is served and another one is still dialing when the backend is severed. The gauge shows
the one session, and then none. -/
theorem sessions_accounted_of_sever : ∃ (b b' : Backend) (seen shown : List Effect),
    Gauges.empty.get? "a" = none ∧
      History ⟨"a", "10.0.0.1", 3306, 9201, "status"⟩ b seen ∧ b.served = 1 ∧
      b.Operates .beginSever b' shown ∧
      b.Tallies (Gauges.empty.after seen) ∧
      (Gauges.empty.after seen).get? "a" = some 1 ∧
      (Gauges.empty.after (seen ++ shown)).get? "a" = some 0 ∧
      (∃ b' shown, b.Operates (.endDial 1 (.error "refused")) b' shown) ∧
      Accounts ⟨"a", "10.0.0.1", 3306, 9201, "status"⟩ b .beginSever b' := by
  have hhistory : ∃ b seen, History ⟨"a", "10.0.0.1", 3306, 9201, "status"⟩ b seen ∧
      b.served = 1 ∧ (∃ c ∈ b.calls, c.stage.bridgeId?.isSome = true) ∧ b.name = "a" ∧
      ∃ b' shown, b.Operates .beginSever b' shown ∧ .returned ∈ b'.severs ∧ b'.name = "a" := by
    refine ⟨_, _, .operate (.beginCall (.empty 8) 0) (.operate (.endDial 0 (.ok (.empty 8)))
      (.operate (.beginCall (.empty 8) 0) .nil ⟨rfl, ?_, [], ?_, rfl⟩)
      ⟨rfl, ?_, [.stepCall 0, .stepCall 0, .stepCall 0], ?_, rfl⟩) ⟨rfl, ?_, [], ?_, rfl⟩, ?_, ?_,
      ?_, _, _, ⟨rfl, ?_, [.stepSever 0 0, .stepSever 0 0, .stepSever 0 0, .stepCall 0, .stepCall 0,
        .stepCall 0], ?_, rfl⟩, ?_, ?_⟩ <;> decide
  obtain ⟨b, seen, hb, hserved, hbridged, hname, b', shown, hoperates, hreturned, hname'⟩ :=
    hhistory
  obtain ⟨htallies, hsettles, haccounts⟩ := sessions_accounted (g := .empty) rfl hb
  have hb' := History.operate _ hb hoperates
  obtain ⟨htallies', -, -⟩ := sessions_accounted (g := .empty) rfl hb'
  have hsever := haccounts _ _ _ hoperates
  have hgauge := htallies.gauge_eq (.inl hbridged)
  have hgauge' := htallies'.gauge_eq (.inr hreturned)
  rw [hname, hserved] at hgauge
  rw [hname', ← htallies'.counted, (hsever.sever rfl).2.1] at hgauge'
  exact ⟨b, b', seen, shown, rfl, hb, hserved, hoperates, htallies, hgauge, hgauge', hsettles _ rfl,
    hsever⟩

end GaleraProxy.Backend
