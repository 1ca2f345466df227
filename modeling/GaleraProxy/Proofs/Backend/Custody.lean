import GaleraProxy.Backend.Step
import GaleraProxy.Proofs.Basic
import GaleraProxy.Proofs.Session.Release

/-!
# Which bridges a backend keeps track of

`Backend.Consistent` says who answers for a bridge that has not been closed: the registry, a sever
that has swept it, or the call that has just taken it out. It also says that the bridge of a call
that was admitted before a sever began is out of the registry as soon as that sever has swept.
`Advance` lists what a call can do by itself, and `Consistent.advance` shows that all of it keeps a
backend consistent.
-/

namespace GaleraProxy

/-- The number of a call's bridge, once there is one. -/
def Call.Stage.bridgeId? : Call.Stage → Option BridgeId
  | .bridged id _ _ => some id
  | .dialing _ | .failed .. | .dialed .. => none

namespace Call.Point

/-- The call has not taken its bridge out of the registry. -/
def isHeld : Call.Point → Bool
  | registered | outdated | admitted | copying | ended => true
  | withdrawn | returned => false

/-- The call was found to be of the present generation, and has not returned. -/
def isAdmitted : Call.Point → Bool
  | admitted | copying | ended => true
  | registered | outdated | withdrawn | returned => false

/-- The bridge is at a stage that fits the point of its call. -/
def Fits (point : Call.Point) (bridge : Bridge) : Prop :=
  match point with
  | copying => bridge.phase ≠ .fresh
  | ended | returned => bridge.phase = .released
  | registered | outdated | withdrawn | admitted => ¬ bridge.IsPumping

theorem isHeld_of_isAdmitted {point : Call.Point} (h : point.isAdmitted = true) :
    point.isHeld = true := by
  cases point <;> simp_all [isAdmitted, isHeld]

/-- A copying bridge belongs to a copying call. -/
theorem Fits.eq_copying {point : Call.Point} {bridge : Bridge} (h : point.Fits bridge)
    (hpumping : bridge.IsPumping) : point = copying := by
  cases point with
  | copying => rfl
  | ended | returned => exact absurd hpumping (Bridge.not_pumping_of_released h)
  | registered | outdated | withdrawn | admitted => exact absurd hpumping h

/-- Closing a bridge never takes it out of the order. -/
theorem Fits.close {point : Call.Point} {bridge : Bridge} (h : point.Fits bridge) :
    point.Fits bridge.close := by
  cases point with
  | copying => exact fun hfresh => h (by rwa [Bridge.close_phase_of_not_fresh h] at hfresh)
  | ended | returned => exact Bridge.close_phase_of_not_pumping (Bridge.not_pumping_of_released h)
  | registered | outdated | withdrawn | admitted => exact Bridge.close_not_pumping h

end Call.Point

namespace Backend

/-- A sever has swept the bridge and has yet to close it. -/
def IsSwept (severs : List Sever) (id : BridgeId) : Prop :=
  ∃ (k : Nat) (ids : List BridgeId), severs[k]? = some (.closing ids) ∧ id ∈ ids

/-- What holds of the bridge of a call that was sent to the backend in a given generation. -/
structure Custody (registry : Registry) (severs : List Sever) (generation : Nat) (id : BridgeId)
    (bridge : Bridge) (point : Call.Point) : Prop where
  created : id < registry.created
  sound : bridge.Sound
  fits : point.Fits bridge
  /-- Somebody answers for a bridge that is not closed. -/
  reached : point.isHeld = true → bridge.closed = false →
    id ∈ registry.members ∨ IsSwept severs id
  gone : point.isHeld = false → id ∉ registry.members
  past : point.isAdmitted = true → generation ≤ severs.length
  /-- A sever that began after the client was sent here has not swept while the bridge of an
  admitted call is registered. -/
  unswept : point.isAdmitted = true → id ∈ registry.members →
    ∀ k sever, generation ≤ k → severs[k]? = some sever → sever = .raised

/-- The registry, the calls and the severs of a backend fit together. -/
structure Consistent (b : Backend) : Prop where
  generation_eq : b.generation = b.severs.length
  nodup : b.registry.members.Nodup
  custody : ∀ {i : Nat} {c : Call} {id bridge point}, b.calls[i]? = some c →
    c.stage = .bridged id bridge point →
    Custody b.registry b.severs c.generation id bridge point
  owned : ∀ id ∈ b.registry.members, ∃ (i : Nat) (c : Call), b.calls[i]? = some c ∧
    c.stage.bridgeId? = some id
  unique : ∀ {i j : Nat} {c d : Call} {id}, b.calls[i]? = some c → b.calls[j]? = some d →
    c.stage.bridgeId? = some id → d.stage.bridgeId? = some id → i = j
  refused : ∀ {i : Nat} {c : Call} {client error}, b.calls[i]? = some c →
    c.stage = .failed client error → client.IsDropped

/-- A configured backend has neither calls nor severs. -/
theorem of_config_consistent (c : BackendConfig) : (ofConfig c).Consistent where
  generation_eq := rfl
  nodup := List.nodup_nil
  custody h := by simp [ofConfig] at h
  owned id h := by simp [ofConfig, Registry.empty] at h
  unique h := by simp [ofConfig] at h
  refused h := by simp [ofConfig] at h

/-! ## The steps of a call -/

/-- The steps that a call of a given generation takes by itself, each with the registry after it. -/
inductive Advance (b : Backend) (generation : Nat) : Call.Stage → Registry → Call.Stage → Prop where
  | register (client server : Duplex) :
      Advance b generation (.dialed client server) b.registry.create.2
        (.bridged b.registry.create.1 (.create client server) .registered)
  | accept (id : BridgeId) (bridge : Bridge) (h : b.generation = generation) :
      Advance b generation (.bridged id bridge .registered) b.registry
        (.bridged id bridge .admitted)
  | outdate (id : BridgeId) (bridge : Bridge) (h : b.generation ≠ generation) :
      Advance b generation (.bridged id bridge .registered) b.registry
        (.bridged id bridge .outdated)
  | withdraw (id : BridgeId) (bridge : Bridge) :
      Advance b generation (.bridged id bridge .outdated) (b.deregister id).registry
        (.bridged id bridge .withdrawn)
  | close (id : BridgeId) (bridge : Bridge) :
      Advance b generation (.bridged id bridge .withdrawn) b.registry
        (.bridged id bridge.close .returned)
  | connect (id : BridgeId) (bridge : Bridge) :
      Advance b generation (.bridged id bridge .admitted) b.registry
        (.bridged id bridge.connect .copying)
  | copy (id : BridgeId) (bridge next : Bridge) (h : bridge.step = some next) :
      Advance b generation (.bridged id bridge .copying) b.registry (.bridged id next .copying)
  | finish (id : BridgeId) (bridge : Bridge) (h : bridge.phase = .released) :
      Advance b generation (.bridged id bridge .copying) b.registry (.bridged id bridge .ended)
  | conclude (id : BridgeId) (bridge : Bridge) :
      Advance b generation (.bridged id bridge .ended) (b.deregister id).registry
        (.bridged id bridge .returned)

/-- The backend with a call at another stage and another registry. -/
def withCall (b : Backend) (registry : Registry) (i : Nat) (call : Call) : Backend :=
  { b with registry, calls := b.calls.set i call }

theorem set_stage_eq {b : Backend} {i : Nat} {c : Call} (hc : b.calls[i]? = some c)
    (stage : Call.Stage) : b.setStage i stage = b.withCall b.registry i { c with stage } := by
  simp only [setStage, modifyCall, withCall, modify_eq_set_of_getElem? hc]

/-- Everything that a call can do by itself. -/
theorem step_call_cases {b next : Backend} {i : Nat} {effects : List Effect}
    (h : b.stepCall i = some (next, effects)) :
    ∃ c registry stage, b.calls[i]? = some c ∧ Advance b c.generation c.stage registry stage ∧
      next = b.withCall registry i { c with stage } := by
  cases hc : b.calls[i]? with
  | none => simp [stepCall, hc] at h
  | some c =>
      obtain ⟨generation, stage⟩ := c
      simp only [stepCall, hc] at h
      cases stage with
      | dialing client => cases h
      | failed client error => cases h
      | dialed client server =>
          obtain ⟨rfl, -⟩ := Prod.mk.inj (Option.some.inj h)
          exact ⟨_, _, _, rfl, .register client server,
            set_stage_eq (b := { b with registry := b.registry.create.2 }) hc _⟩
      | bridged id bridge point =>
          cases point with
          | registered =>
              simp only at h
              split at h
              · obtain ⟨rfl, -⟩ := Prod.mk.inj (Option.some.inj h)
                exact ⟨_, _, _, rfl, .accept id bridge ‹_›, set_stage_eq hc _⟩
              · obtain ⟨rfl, -⟩ := Prod.mk.inj (Option.some.inj h)
                exact ⟨_, _, _, rfl, .outdate id bridge ‹_›, set_stage_eq hc _⟩
          | outdated =>
              obtain ⟨rfl, -⟩ := Prod.mk.inj (Option.some.inj h)
              exact ⟨_, _, _, rfl, .withdraw id bridge,
                set_stage_eq (b := b.deregister id) hc _⟩
          | withdrawn =>
              obtain ⟨rfl, -⟩ := Prod.mk.inj (Option.some.inj h)
              exact ⟨_, _, _, rfl, .close id bridge, set_stage_eq hc _⟩
          | admitted =>
              obtain ⟨rfl, -⟩ := Prod.mk.inj (Option.some.inj h)
              exact ⟨_, _, _, rfl, .connect id bridge, set_stage_eq hc _⟩
          | copying =>
              simp only at h
              split at h
              · obtain ⟨rfl, -⟩ := Prod.mk.inj (Option.some.inj h)
                exact ⟨_, _, _, rfl, .copy id bridge _ ‹_›, set_stage_eq hc _⟩
              · split at h
                · obtain ⟨rfl, -⟩ := Prod.mk.inj (Option.some.inj h)
                  exact ⟨_, _, _, rfl, .finish id bridge ‹_›, set_stage_eq hc _⟩
                · cases h
                · cases h
          | ended =>
              obtain ⟨rfl, -⟩ := Prod.mk.inj (Option.some.inj h)
              exact ⟨_, _, _, rfl, .conclude id bridge,
                set_stage_eq (b := b.deregister id) hc _⟩
          | returned => cases h

variable {b : Backend}

/-- A call that can advance does so. -/
theorem step_call_of_advance {i : Nat} {c : Call} {registry : Registry} {stage : Call.Stage}
    (hc : b.calls[i]? = some c) (h : Advance b c.generation c.stage registry stage) :
    ∃ effects, b.stepCall i = some (b.withCall registry i { c with stage }, effects) := by
  obtain ⟨generation, before⟩ := c
  have hset : ∀ (b' : Backend) (stage' : Call.Stage), b'.calls = b.calls →
      b'.setStage i stage' = b'.withCall b'.registry i ⟨generation, stage'⟩ :=
    fun b' stage' hcalls => set_stage_eq (hcalls ▸ hc) stage'
  cases h with
  | register client server =>
      refine ⟨[], ?_⟩
      simp only [stepCall, hc]
      rw [hset { b with registry := b.registry.create.2 } _ rfl]
      rfl
  | accept id bridge heq =>
      refine ⟨[b.gauge], ?_⟩
      simp only [stepCall, hc]
      rw [if_pos heq, hset b _ rfl]
  | outdate id bridge hne =>
      refine ⟨[], ?_⟩
      simp only [stepCall, hc]
      rw [if_neg hne, hset b _ rfl]
  | withdraw id bridge =>
      refine ⟨[], ?_⟩
      simp only [stepCall, hc]
      rw [hset (b.deregister id) _ rfl]
      rfl
  | close id bridge =>
      refine ⟨[b.gauge], ?_⟩
      simp only [stepCall, hc]
      rw [hset b _ rfl]
  | connect id bridge =>
      refine ⟨[], ?_⟩
      simp only [stepCall, hc]
      rw [hset b _ rfl]
  | copy id bridge next hstep =>
      refine ⟨[], ?_⟩
      simp only [stepCall, hc, hstep]
      rw [hset b _ rfl]
  | finish id bridge hphase =>
      have hstuck : bridge.step = none := by
        simp [Bridge.step, Bridge.noticeClose, Bridge.stepUpload, Bridge.stepDownload, hphase]
      refine ⟨[], ?_⟩
      simp only [stepCall, hc, hstuck, hphase]
      rw [hset b _ rfl]
  | conclude id bridge =>
      refine ⟨[(b.deregister id).gauge], ?_⟩
      simp only [stepCall, hc]
      rw [hset (b.deregister id) _ rfl]
      rfl

/-! ## Steps of calls keep a backend consistent -/

theorem with_call_get {registry : Registry} {i j : Nat} {c d : Call} (hc : b.calls[i]? = some c) :
    (b.withCall registry i d).calls[j]? = if i = j then some d else b.calls[j]? :=
  getElem?_set_of_getElem? hc d j

/-- Custody does not depend on other members of the registry. -/
theorem Custody.with_registry {registry registry' : Registry} {severs : List Sever}
    {generation : Nat} {id : BridgeId} {bridge : Bridge} {point : Call.Point}
    (h : Custody registry severs generation id bridge point)
    (hcreated : registry.created ≤ registry'.created)
    (hmem : id ∈ registry'.members ↔ id ∈ registry.members) :
    Custody registry' severs generation id bridge point where
  created := Nat.lt_of_lt_of_le h.created hcreated
  sound := h.sound
  fits := h.fits
  reached := by simpa only [hmem] using h.reached
  gone := by simpa only [hmem] using h.gone
  past := h.past
  unswept := by simpa only [hmem] using h.unswept

theorem Consistent.members_lt (h : b.Consistent) {id : BridgeId}
    (hid : id ∈ b.registry.members) : id < b.registry.created := by
  obtain ⟨i, ⟨generation, stage⟩, hc, hstage⟩ := h.owned id hid
  cases stage with
  | bridged own bridge point =>
      obtain rfl := Option.some.inj hstage
      exact (h.custody hc rfl).created
  | dialing client => cases hstage
  | failed client error => cases hstage
  | dialed client server => cases hstage

/-- The number of a call's bridge has been given out. -/
theorem Consistent.id_lt (h : b.Consistent) {i : Nat} {c : Call} {id : BridgeId}
    (hc : b.calls[i]? = some c) (hid : c.stage.bridgeId? = some id) : id < b.registry.created := by
  obtain ⟨generation, stage⟩ := c
  cases stage with
  | bridged own bridge point =>
      obtain rfl := Option.some.inj hid
      exact (h.custody hc rfl).created
  | dialing client => cases hid
  | failed client error => cases hid
  | dialed client server => cases hid

/-- A call may go to another stage, and the registry may change with it, as long as nothing changes
for the other calls. -/
theorem Consistent.with_call (h : b.Consistent) {i generation : Nat} {stage stage' : Call.Stage}
    {registry : Registry} (hc : b.calls[i]? = some ⟨generation, stage⟩)
    (hcreated : b.registry.created ≤ registry.created) (hnodup : registry.members.Nodup)
    (hmembers : ∀ id ∈ registry.members, id ∈ b.registry.members ∨ stage'.bridgeId? = some id)
    (hothers : ∀ id ∈ b.registry.members, stage.bridgeId? ≠ some id → id ∈ registry.members)
    (hkept : ∀ id, stage.bridgeId? = some id → stage'.bridgeId? = some id)
    (hfresh : ∀ id, stage'.bridgeId? = some id →
      stage.bridgeId? = some id ∨ b.registry.created ≤ id)
    (hcustody : ∀ id bridge point, stage' = .bridged id bridge point →
      Custody registry b.severs generation id bridge point)
    (hrefused : ∀ client error, stage' = .failed client error → client.IsDropped) :
    (b.withCall registry i ⟨generation, stage'⟩).Consistent := by
  -- the bridge of another call is neither that of this call nor a new one
  have hother : ∀ {j : Nat} {d : Call} {id : BridgeId}, i ≠ j → b.calls[j]? = some d →
      d.stage.bridgeId? = some id → stage.bridgeId? ≠ some id ∧ stage'.bridgeId? ≠ some id := by
    intro j d id hne hd hid
    have hold : stage.bridgeId? ≠ some id := fun hown => hne (h.unique hc hd hown hid)
    refine ⟨hold, fun hnew => ?_⟩
    rcases hfresh id hnew with hown | hle
    · exact hold hown
    · exact absurd (h.id_lt hd hid) (Nat.not_lt.mpr hle)
  constructor
  case generation_eq => exact h.generation_eq
  case nodup => exact hnodup
  case custody =>
    intro j d id bridge point hd hstage
    rw [with_call_get hc] at hd
    split at hd
    · obtain rfl := Option.some.inj hd
      exact hcustody id bridge point hstage
    · have hid : d.stage.bridgeId? = some id := by rw [hstage]; rfl
      obtain ⟨hold, hnew⟩ := hother ‹_› hd hid
      refine (h.custody hd hstage).with_registry hcreated ⟨fun hmem => ?_, fun hmem => ?_⟩
      · exact (hmembers id hmem).resolve_right hnew
      · exact hothers id hmem hold
  case owned =>
    intro id hid
    by_cases hnew : stage'.bridgeId? = some id
    · exact ⟨i, ⟨generation, stage'⟩, by simp [with_call_get hc], hnew⟩
    · obtain ⟨j, d, hd, hown⟩ := h.owned id ((hmembers id hid).resolve_right hnew)
      refine ⟨j, d, ?_, hown⟩
      rw [with_call_get hc, if_neg, hd]
      rintro rfl
      obtain rfl := Option.some.inj (hc.symm.trans hd)
      exact hnew (hkept id hown)
  case unique =>
    intro j k d e id hd he hown hown'
    rw [with_call_get hc] at hd he
    split at hd <;> split at he
    · exact ‹i = j›.symm.trans ‹i = k›
    · obtain rfl := Option.some.inj hd
      exact absurd hown (hother ‹_› he hown').2
    · obtain rfl := Option.some.inj he
      exact absurd hown' (hother ‹_› hd hown).2
    · exact h.unique hd he hown hown'
  case refused =>
    intro j d client error hd hstage
    rw [with_call_get hc] at hd
    split at hd
    · obtain rfl := Option.some.inj hd
      exact hrefused client error hstage
    · exact h.refused hd hstage

/-- A call with a bridge may go to another point, with another state of its bridge. -/
theorem Consistent.with_bridge (h : b.Consistent) {i generation : Nat} {id : BridgeId}
    {bridge bridge' : Bridge} {point point' : Call.Point}
    (hc : b.calls[i]? = some ⟨generation, .bridged id bridge point⟩)
    (hcustody : Custody b.registry b.severs generation id bridge' point') :
    (b.withCall b.registry i ⟨generation, .bridged id bridge' point'⟩).Consistent := by
  refine h.with_call hc (Nat.le_refl _) h.nodup (fun _ hmem => .inl hmem)
    (fun _ hmem _ => hmem) (fun _ hid => hid) (fun _ hid => .inl hid) ?_ (by simp)
  intro own own' own'' heq
  cases heq
  exact hcustody

theorem deregister_members (b : Backend) (id : BridgeId) :
    (b.deregister id).registry.members = b.registry.members.erase id := by
  unfold deregister Registry.remove? Registry.contains
  split
  · rfl
  · rename_i hmem
    exact (List.erase_of_not_mem (by simpa using hmem)).symm

@[simp] theorem deregister_created (b : Backend) (id : BridgeId) :
    (b.deregister id).registry.created = b.registry.created := by
  unfold deregister Registry.remove?
  split <;> rfl

/-- A call takes its own bridge out of the registry. -/
theorem Consistent.with_deregistered (h : b.Consistent) {i generation : Nat} {id : BridgeId}
    {bridge : Bridge} {point point' : Call.Point}
    (hc : b.calls[i]? = some ⟨generation, .bridged id bridge point⟩)
    (hfits : point'.Fits bridge) (hheld : point'.isHeld = false) :
    (b.withCall (b.deregister id).registry i ⟨generation, .bridged id bridge point'⟩).Consistent := by
  have hold := h.custody hc rfl
  have hnodup := h.nodup
  refine h.with_call hc (by simp) ?_ ?_ ?_ (fun _ hid => hid) (fun _ hid => .inl hid) ?_ (by simp)
  · rw [deregister_members]
    exact hnodup.erase id
  · intro own hmem
    rw [deregister_members] at hmem
    exact .inl (List.mem_of_mem_erase hmem)
  · intro own hmem hne
    rw [deregister_members, List.mem_erase_of_ne (by rintro rfl; exact hne rfl)]
    exact hmem
  · intro own own' own'' heq
    cases heq
    exact {
      created := by simpa using hold.created
      sound := hold.sound
      fits := hfits
      reached := by simp [hheld]
      gone := fun _ => by simp [deregister_members, hnodup.mem_erase_iff]
      past := fun hadmitted => by
        rw [Call.Point.isHeld_of_isAdmitted hadmitted] at hheld
        cases hheld
      unswept := fun hadmitted => by
        rw [Call.Point.isHeld_of_isAdmitted hadmitted] at hheld
        cases hheld }

/-- A call that has dialed registers a new bridge. -/
theorem Consistent.with_registered (h : b.Consistent) {i generation : Nat} {client server : Duplex}
    (hc : b.calls[i]? = some ⟨generation, .dialed client server⟩) :
    (b.withCall b.registry.create.2 i
      ⟨generation, .bridged b.registry.create.1 (.create client server) .registered⟩).Consistent := by
  have hfresh : b.registry.created ∉ b.registry.members :=
    fun hmem => Nat.lt_irrefl _ (h.members_lt hmem)
  refine h.with_call hc (Nat.le_succ _) ?_ ?_ ?_ (by simp [Call.Stage.bridgeId?]) ?_ ?_ (by simp)
  · refine List.nodup_append.mpr ⟨h.nodup, by simp, fun id hid new hnew heq => ?_⟩
    rw [List.mem_singleton.mp hnew] at heq
    exact hfresh (heq ▸ hid)
  · intro id hmem
    rcases List.mem_append.mp hmem with hmem | hmem
    · exact .inl hmem
    · exact .inr (by rw [List.mem_singleton.mp hmem]; rfl)
  · exact fun id hmem _ => List.mem_append_left _ hmem
  · intro id hid
    exact .inr (Nat.le_of_eq (Option.some.inj hid))
  · intro id bridge point heq
    cases heq
    exact {
      created := Nat.lt_succ_self _
      sound := Bridge.create_sound client server
      fits := Bridge.not_pumping_of_fresh rfl
      reached := fun _ _ => .inl (List.mem_append_right _ (List.mem_singleton.mpr rfl))
      gone := by simp [Call.Point.isHeld]
      past := by simp [Call.Point.isAdmitted]
      unswept := by simp [Call.Point.isAdmitted] }

/-- Whatever a call does by itself, the backend stays consistent. -/
theorem Consistent.advance (h : b.Consistent) {i generation : Nat} {stage stage' : Call.Stage}
    {registry : Registry} (hc : b.calls[i]? = some ⟨generation, stage⟩)
    (hadvance : Advance b generation stage registry stage') :
    (b.withCall registry i ⟨generation, stage'⟩).Consistent := by
  cases hadvance with
  | register client server => exact h.with_registered hc
  | accept id bridge hgeneration =>
      have hold := h.custody hc rfl
      refine h.with_bridge hc { hold with
        past := fun _ => Nat.le_of_eq (hgeneration.symm.trans h.generation_eq)
        unswept := fun _ _ k sever hle hsever => ?_
        gone := by simp [Call.Point.isHeld] }
      -- no sever has begun since the client was sent here
      obtain ⟨hlt, -⟩ := List.getElem?_eq_some_iff.mp hsever
      rw [← hgeneration, h.generation_eq] at hle
      exact absurd hlt (Nat.not_lt.mpr hle)
  | outdate id bridge hgeneration =>
      exact h.with_bridge hc { h.custody hc rfl with
        past := by simp [Call.Point.isAdmitted]
        unswept := by simp [Call.Point.isAdmitted] }
  | withdraw id bridge =>
      exact h.with_deregistered hc (h.custody hc rfl).fits rfl
  | close id bridge =>
      have hold := h.custody hc rfl
      exact h.with_bridge hc { hold with
        sound := hold.sound.close
        fits := Bridge.close_phase_of_not_pumping hold.fits
        reached := by simp [Call.Point.isHeld] }
  | connect id bridge =>
      have hold := h.custody hc rfl
      exact h.with_bridge hc { hold with
        sound := hold.sound.connect
        fits := bridge.connect_not_fresh
        reached := fun hheld hclosed => hold.reached hheld (by simpa using hclosed) }
  | copy id bridge next hstep =>
      have hold := h.custody hc rfl
      refine h.with_bridge hc { hold with
        sound := Bridge.step_sound hstep
        fits := ?_
        reached := fun hheld hclosed => hold.reached hheld (Bridge.step_closed hstep hclosed) }
      rcases (Bridge.step_cases hstep).2 with ⟨hpumping, -⟩ | rfl
      · exact fun hfresh => Bridge.not_pumping_of_fresh hfresh hpumping
      · simp [Call.Point.Fits, Bridge.release]
  | finish id bridge hphase =>
      exact h.with_bridge hc { h.custody hc rfl with fits := hphase }
  | conclude id bridge =>
      exact h.with_deregistered hc (h.custody hc rfl).fits rfl

end Backend

end GaleraProxy
