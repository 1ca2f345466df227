import GaleraProxy.Proofs.Backend.Generations

/-!
# Which clients a sever reaches

A client may be on its way to a backend, registered, or copying when the backend is severed.
`severed_calls_close` follows the calls whose generation was seen before a sever began, through any
interleaving with other calls and severs, and says that the sever leaves such a client connected
only to another one that has swept its bridge. `client_outlives_returned_sever` shows how this comes
about, and that the generation has to be one that was seen.
-/

namespace GaleraProxy.Backend

variable {b : Backend}

/-! ## What a sever reaches -/

/-- A copying bridge that is still open is registered, or a sever is about to close it. -/
theorem Consistent.pumping_reached (h : b.Consistent) {i : Nat} {call : Call} {id : BridgeId}
    {bridge : Bridge} {point : Call.Point} (hcall : b.calls[i]? = some call)
    (hstage : call.stage = .bridged id bridge point) (hpumping : bridge.IsPumping)
    (hopen : bridge.closed = false) : id ∈ b.registry.members ∨ IsSwept b.severs id := by
  have hcustody := h.custody hcall hstage
  obtain rfl := hcustody.fits.eq_copying hpumping
  exact hcustody.reached rfl hopen

/-- A sever that has returned leaves no bridge of an earlier admitted call registered. -/
theorem Consistent.unregistered (h : b.Consistent) {i k : Nat} {call : Call} {id : BridgeId}
    {bridge : Bridge} {point : Call.Point} (hcall : b.calls[i]? = some call)
    (hstage : call.stage = .bridged id bridge point) (hadmitted : point.isAdmitted = true)
    (hearlier : call.generation ≤ k) (hreturned : b.severs[k]? = some .returned) :
    id ∉ b.registry.members := by
  intro hmem
  cases (h.custody hcall hstage).unswept hadmitted hmem k _ hearlier hreturned

/-- A call that waits after its dial copies, with its bridge open, or it has returned. -/
theorem Consistent.waiting_cases (h : b.Consistent) {i : Nat} {call : Call} {id : BridgeId}
    {bridge : Bridge} {point : Call.Point} (hcall : b.calls[i]? = some call)
    (hstage : call.stage = .bridged id bridge point) (hwaits : b.stepCall i = none) :
    point = .copying ∧ bridge.IsPumping ∧ bridge.closed = false ∨
      point = .returned ∧ bridge.closed = true := by
  have hcustody := h.custody hcall hstage
  obtain ⟨generation, stage⟩ := call
  obtain rfl : stage = _ := hstage
  simp only [stepCall, hcall] at hwaits
  cases point with
  | registered =>
      simp only at hwaits
      split at hwaits <;> cases hwaits
  | outdated => cases hwaits
  | withdrawn => cases hwaits
  | admitted => cases hwaits
  | ended => cases hwaits
  | returned => exact .inr ⟨rfl, (hcustody.sound.released hcustody.fits).1⟩
  | copying =>
      simp only at hwaits
      split at hwaits
      · cases hwaits
      · rename_i hstep
        split at hwaits
        · cases hwaits
        · rename_i hphase
          exact absurd hphase hcustody.fits
        · rename_i n upload download hphase
          have hpumping : bridge.IsPumping := ⟨n, upload, download, hphase⟩
          cases hclosed : bridge.closed with
          | false => exact .inl ⟨rfl, hpumping, rfl⟩
          | true =>
              have hsome := Bridge.step_isSome_of_closed hpumping hclosed
              simp [hstep] at hsome

/-- Once all severs have returned, the open bridge of a call that has to wait is registered, and the
client was sent there in the present generation. -/
theorem Consistent.present_of_open (h : b.Consistent)
    (hreturned : ∀ {k : Nat} {sever : Sever}, b.severs[k]? = some sever → sever = .returned)
    {i : Nat} {call : Call} {id : BridgeId} {bridge : Bridge} {point : Call.Point}
    (hcall : b.calls[i]? = some call) (hstage : call.stage = .bridged id bridge point)
    (hwaits : b.stepCall i = none) (hopen : bridge.closed = false) :
    id ∈ b.registry.members ∧ b.generation ≤ call.generation := by
  rcases h.waiting_cases hcall hstage hwaits with ⟨rfl, hpumping, -⟩ | ⟨-, hclosed⟩
  · have hmem : id ∈ b.registry.members := by
      rcases h.pumping_reached hcall hstage hpumping hopen with hmem | ⟨k, ids, hids, -⟩
      · exact hmem
      · cases hreturned hids
    refine ⟨hmem, ?_⟩
    rw [h.generation_eq]
    -- a sever that began after the client was sent here would have swept
    refine Nat.le_of_not_lt fun hlt => ?_
    have hget := List.getElem?_eq_getElem hlt
    have hraised := (h.custody hcall hstage).unswept rfl hmem _ _ (Nat.le_refl _) hget
    cases hraised.symm.trans (hreturned hget)
  · cases hopen.symm.trans hclosed

/-- The bridge of a call that has to wait is open if it is registered. -/
theorem Consistent.open_of_registered (h : b.Consistent) {id : BridgeId}
    (hid : id ∈ b.registry.members)
    (hwaits : ∀ {i : Nat} {c : Call}, b.calls[i]? = some c → b.stepCall i = none) :
    ∃ (i : Nat) (c : Call) (bridge : Bridge) (point : Call.Point), b.calls[i]? = some c ∧
      c.stage = .bridged id bridge point ∧ bridge.closed = false := by
  obtain ⟨i, ⟨generation, stage⟩, hc, hown⟩ := h.owned id hid
  cases stage with
  | dialing client => cases hown
  | failed client error => cases hown
  | dialed client server => cases hown
  | bridged own bridge point =>
      obtain rfl := Option.some.inj hown
      rcases h.waiting_cases hc rfl (hwaits hc) with ⟨-, -, hopen⟩ | ⟨rfl, -⟩
      · exact ⟨i, _, bridge, point, hc, rfl, hopen⟩
      · exact absurd hid ((h.custody hc rfl).gone rfl)

/-- A bridge that starts to copy was open, and its call admitted. -/
theorem Consistent.starting_cases (h : b.Consistent) {i : Nat} {call : Call} {id : BridgeId}
    {bridge : Bridge} {point : Call.Point} (hcall : b.calls[i]? = some call)
    (hstage : call.stage = .bridged id bridge point) (hidle : ¬ bridge.IsPumping)
    {next : Backend} {effects : List Effect} (hstep : b.stepCall i = some (next, effects))
    {call' : Call} {bridge' : Bridge} {point' : Call.Point} (hcall' : next.calls[i]? = some call')
    (hstage' : call'.stage = .bridged id bridge' point') (hpumping : bridge'.IsPumping) :
    point = .admitted ∧ bridge.closed = false := by
  have hcustody := h.custody hcall hstage
  obtain ⟨c, registry, stage', hc, hadvance, rfl⟩ := step_call_cases hstep
  obtain rfl := Option.some.inj (hc.symm.trans hcall)
  rw [with_call_get hc, if_pos rfl] at hcall'
  obtain rfl := Option.some.inj hcall'
  obtain rfl : stage' = _ := hstage'
  rw [hstage] at hadvance
  cases hadvance with
  | accept | outdate | withdraw => exact absurd hpumping hidle
  | finish | conclude => exact absurd hpumping hidle
  | close => exact absurd hpumping (Bridge.close_not_pumping hidle)
  | copy id bridge next hcopy => exact absurd (Bridge.step_cases hcopy).1 hidle
  | connect =>
      refine ⟨rfl, hcustody.sound.fresh ?_⟩
      rcases bridge.phase_cases with hfresh | hrunning | hreleased
      · exact hfresh
      · exact absurd hrunning hidle
      · exact absurd hpumping
          (Bridge.not_pumping_of_released (Bridge.connect_phase_of_released hreleased))

/-- For every interleaving of calls and severs: let the generation of a call have been seen before
some sever began. Once that sever has returned and the call has come to a stop after its dial, the
bridge of the call is out of the registry and closed, and it does not start to copy any more, unless
another sever that overlaps with it has swept the bridge and is about to close it. Moreover, a
copying bridge that is open is registered unless a sever is between its sweep and closing it. -/
theorem severed_calls_close (c : BackendConfig) (reading between after : List Action)
    {seen before b : Backend} (hseen : (ofConfig c).run reading = some seen)
    (hbefore : seen.run between = some before)
    (hafter : before.beginSever.1.run after = some b) :
    (∀ (i : Nat) (call : Call) (id : BridgeId) (bridge : Bridge) (point : Call.Point),
      b.calls[i]? = some call → call.stage = .bridged id bridge point →
      call.generation = seen.generation →
      b.severs[before.severs.length]? = some .returned →
      (b.stepCall i = none →
        id ∉ b.registry.members ∧ (bridge.closed = true ∨ IsSwept b.severs id)) ∧
      ∀ (next : Backend) (effects : List Effect) (call' : Call) (bridge' : Bridge)
        (point' : Call.Point), b.stepCall i = some (next, effects) →
        next.calls[i]? = some call' → call'.stage = .bridged id bridge' point' →
        bridge'.IsPumping → bridge.IsPumping ∨ IsSwept b.severs id) ∧
    ∀ (i : Nat) (call : Call) (id : BridgeId) (bridge : Bridge) (point : Call.Point),
      b.calls[i]? = some call → call.stage = .bridged id bridge point →
      bridge.IsPumping → bridge.closed = false → ¬ IsSwept b.severs id →
      id ∈ b.registry.members := by
  have hconsistent : before.Consistent := (run_consistent hseen).run hbefore
  have h : b.Consistent := hconsistent.begin_sever.run hafter
  have hle : seen.generation ≤ before.severs.length := by
    rw [← hconsistent.generation_eq]
    exact (run_consistent hseen).generation_le_of_run hbefore
  refine ⟨fun i call id bridge point hcall hstage hgeneration hreturned => ⟨fun hwaits => ?_, ?_⟩,
    fun i call id bridge point hcall hstage hpumping hopen hunswept =>
      (h.pumping_reached hcall hstage hpumping hopen).resolve_right hunswept⟩
  · -- the call has returned, or it was admitted before the sever
    have hcustody := h.custody hcall hstage
    rcases h.waiting_cases hcall hstage hwaits with ⟨rfl, hpumping, hopen⟩ | ⟨rfl, hclosed⟩
    · have hgone := h.unregistered hcall hstage rfl (hgeneration ▸ hle) hreturned
      exact ⟨hgone, .inr ((h.pumping_reached hcall hstage hpumping hopen).resolve_left hgone)⟩
    · exact ⟨hcustody.gone rfl, .inl hclosed⟩
  · intro next effects call' bridge' point' hstep hcall' hstage' hpumping
    by_cases hidle : bridge.IsPumping
    · exact .inl hidle
    · obtain ⟨rfl, hopen⟩ :=
        h.starting_cases hcall hstage hidle hstep hcall' hstage' hpumping
      have hgone := h.unregistered hcall hstage rfl (hgeneration ▸ hle) hreturned
      exact .inr (((h.custody hcall hstage).reached rfl hopen).resolve_left hgone)

/-- One client copies and another one is still dialing when the backend is severed. -/
theorem severed_calls_close_of_two_clients :
    ∃ (seen b : Backend) (call : Call) (id : BridgeId) (bridge : Bridge) (point : Call.Point),
      (ofConfig ⟨"a", "10.0.0.1", 3306, 9201, "status"⟩).run
        [.beginCall (.empty 8) 0, .endDial 0 (.ok (.empty 8)), .stepCall 0, .stepCall 0,
         .stepCall 0, .beginCall (.empty 8) 0] = some seen ∧
      seen.beginSever.1.run
        [.stepSever 0 0, .stepSever 0 0, .stepSever 0 0, .endDial 1 (.ok (.empty 8)), .stepCall 1,
         .stepCall 1, .stepCall 1, .stepCall 1] = some b ∧
      b.calls[1]? = some call ∧ call.stage = .bridged id bridge point ∧
      call.generation = seen.generation ∧ b.severs[seen.severs.length]? = some .returned ∧
      b.stepCall 1 = none ∧
      id ∉ b.registry.members ∧ (bridge.closed = true ∨ IsSwept b.severs id) := by
  refine ⟨_, _, _, _, _, _, rfl, rfl, rfl, rfl, rfl, rfl, rfl, ?_⟩
  exact ((severed_calls_close ⟨"a", "10.0.0.1", 3306, 9201, "status"⟩
    [.beginCall (.empty 8) 0, .endDial 0 (.ok (.empty 8)), .stepCall 0, .stepCall 0,
     .stepCall 0, .beginCall (.empty 8) 0] []
    [.stepSever 0 0, .stepSever 0 0, .stepSever 0 0, .endDial 1 (.ok (.empty 8)), .stepCall 1,
     .stepCall 1, .stepCall 1, .stepCall 1] rfl rfl rfl).1 1 _ _ _ _ rfl rfl rfl rfl).1 rfl

/-- A client that was on its way when the backend was severed may stay connected although the sever
has returned. While two severs overlap, the one that finds the registry empty may return before the
other one has closed what it swept, and an admitted call then starts to copy. A client that comes
with a generation that the backend has not reached yet is let in by the very sever that reaches it.
-/
theorem client_outlives_returned_sever :
    (∃ (before b next : Backend) (effects : List Effect) (waiting copying : Bridge),
      (ofConfig ⟨"a", "10.0.0.1", 3306, 9201, "status"⟩).run
        [.beginCall (.empty 8) 0, .endDial 0 (.ok (.empty 8)), .stepCall 0, .stepCall 0] =
          some before ∧
      before.beginSever.1.run
        [.beginSever, .stepSever 1 0, .stepSever 0 0, .stepSever 0 0] = some b ∧
      b.severs = [.returned, .closing [0]] ∧
      b.calls = [⟨0, .bridged 0 waiting .admitted⟩] ∧ ¬ waiting.IsPumping ∧
      b.stepCall 0 = some (next, effects) ∧
      next.calls = [⟨0, .bridged 0 copying .copying⟩] ∧ copying.IsPumping ∧
      copying.closed = false ∧ next.stepCall 0 = none) ∧
    ∃ (b : Backend) (copying : Bridge),
      (ofConfig ⟨"a", "10.0.0.1", 3306, 9201, "status"⟩).run
        [.beginCall (.empty 8) 1, .beginSever, .stepSever 0 0, .stepSever 0 0,
         .endDial 0 (.ok (.empty 8)), .stepCall 0, .stepCall 0, .stepCall 0] = some b ∧
      b.severs = [.returned] ∧ b.calls = [⟨1, .bridged 0 copying .copying⟩] ∧
      copying.IsPumping ∧ copying.closed = false ∧ b.registry.members = [0] ∧
      b.stepCall 0 = none := by
  refine ⟨⟨_, _, _, _, _, _, rfl, rfl, rfl, rfl, ?_, rfl, rfl, ⟨_, _, _, rfl⟩, rfl, rfl⟩,
    ⟨_, _, rfl, rfl, rfl, ⟨_, _, _, rfl⟩, rfl, rfl, rfl⟩⟩
  rintro ⟨n, upload, download, hphase⟩
  cases hphase

end GaleraProxy.Backend
