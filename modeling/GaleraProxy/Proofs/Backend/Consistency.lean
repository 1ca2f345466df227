import GaleraProxy.Proofs.Backend.Custody

/-!
# Backends stay consistent

`Transition` lists what an action can do to a backend. Severs, ends of dials, far ends and changes of
health keep a backend consistent as calls do, so that it is consistent after every run:
`run_consistent`.
-/

namespace GaleraProxy.Backend

variable {b : Backend}

/-! ## Severs -/

/-- The steps of a sever, each with the sever after it. -/
inductive SeverAdvance (b : Backend) (k : Nat) : Backend → Prop where
  | sweep (h : b.severs[k]? = some .raised) :
      SeverAdvance b k { b with
        registry := b.registry.sweep.2
        severs := b.severs.set k (.closing b.registry.members) }
  | close (ids : List BridgeId) (pick : Nat) (id : BridgeId)
      (h : b.severs[k]? = some (.closing ids)) (hid : ids[pick]? = some id) :
      SeverAdvance b k { b with
        calls := b.calls.map (Call.closeBridge id)
        severs := b.severs.set k (.closing (ids.eraseIdx pick)) }
  | conclude (h : b.severs[k]? = some (.closing [])) :
      SeverAdvance b k { b with severs := b.severs.set k .returned }

/-- Everything that a sever can do. -/
theorem step_sever_cases {next : Backend} {k pick : Nat} {effects : List Effect}
    (h : b.stepSever k pick = some (next, effects)) : SeverAdvance b k next := by
  unfold stepSever at h
  split at h
  · cases h
  · cases h
  · obtain ⟨rfl, -⟩ := Prod.mk.inj (Option.some.inj h)
    exact .sweep ‹_›
  · obtain ⟨rfl, -⟩ := Prod.mk.inj (Option.some.inj h)
    exact .conclude ‹_›
  · split at h
    · cases h
    · obtain ⟨rfl, -⟩ := Prod.mk.inj (Option.some.inj h)
      exact .close _ pick _ ‹_› ‹_›

/-- Custody passes to other severs that sweep no less and are no less far on. -/
theorem Custody.with_severs {registry : Registry} {severs severs' : List Sever} {generation : Nat}
    {id : BridgeId} {bridge : Bridge} {point : Call.Point}
    (h : Custody registry severs generation id bridge point)
    (hlength : severs.length ≤ severs'.length)
    (hswept : bridge.closed = false → IsSwept severs id → IsSwept severs' id)
    (hraised : ∀ (k : Nat) (sever' : Sever), severs'[k]? = some sever' → sever' = .raised ∨
      ∃ sever, severs[k]? = some sever ∧ sever ≠ .raised) :
    Custody registry severs' generation id bridge point where
  created := h.created
  sound := h.sound
  fits := h.fits
  reached := fun hheld hclosed => (h.reached hheld hclosed).imp_right (hswept hclosed)
  gone := h.gone
  past := fun hadmitted => Nat.le_trans (h.past hadmitted) hlength
  unswept := fun hadmitted hmem k sever' hle hsever' => by
    rcases hraised k sever' hsever' with hraised | ⟨sever, hsever, hne⟩
    · exact hraised
    · exact absurd (h.unswept hadmitted hmem k sever hle hsever) hne

/-- A sweep that is not touched stays. -/
theorem IsSwept.set_of_ne {severs : List Sever} {id : BridgeId} {k : Nat} {sever sever' : Sever}
    (hswept : IsSwept severs id) (hsever : severs[k]? = some sever)
    (hne : ∀ ids, sever = .closing ids → id ∉ ids) : IsSwept (severs.set k sever') id := by
  obtain ⟨j, ids, hids, hid⟩ := hswept
  refine ⟨j, ids, ?_, hid⟩
  rw [getElem?_set_of_getElem? hsever, if_neg, hids]
  rintro rfl
  exact hne ids (Option.some.inj (hsever.symm.trans hids)) hid

/-- The calls of a consistent backend may change as long as their generations and the numbers of
their bridges do not. -/
theorem Consistent.with_severs (h : b.Consistent) (registry : Registry) (severs : List Sever)
    (f : Call → Call) (hgeneration : b.severs.length = severs.length)
    (hnodup : registry.members.Nodup) (hmembers : ∀ id ∈ registry.members, id ∈ b.registry.members)
    (hid : ∀ c, (f c).stage.bridgeId? = c.stage.bridgeId?)
    (hcustody : ∀ {i : Nat} {c : Call} {id bridge point}, b.calls[i]? = some c →
      (f c).stage = .bridged id bridge point →
      Custody registry severs (f c).generation id bridge point)
    (hrefused : ∀ {c : Call} {client error}, (f c).stage = .failed client error →
      c.stage = .failed client error) :
    Consistent { b with registry, severs, calls := b.calls.map f } := by
  have hget : ∀ {i : Nat} {d : Call}, (b.calls.map f)[i]? = some d →
      ∃ c, b.calls[i]? = some c ∧ f c = d := by
    intro i d hd
    rwa [List.getElem?_map, Option.map_eq_some_iff] at hd
  constructor
  case generation_eq => exact h.generation_eq.trans hgeneration
  case nodup => exact hnodup
  case custody =>
    intro i d id bridge point hd hstage
    obtain ⟨c, hc, rfl⟩ := hget hd
    exact hcustody hc hstage
  case owned =>
    intro id hmem
    obtain ⟨i, c, hc, hown⟩ := h.owned id (hmembers id hmem)
    exact ⟨i, f c, by simp [hc], (hid c).trans hown⟩
  case unique =>
    intro i j d e id hd he hown hown'
    obtain ⟨c, hc, rfl⟩ := hget hd
    obtain ⟨c', hc', rfl⟩ := hget he
    exact h.unique hc hc' ((hid c).symm.trans hown) ((hid c').symm.trans hown')
  case refused =>
    intro i d client error hd hstage
    obtain ⟨c, hc, rfl⟩ := hget hd
    exact h.refused hc (hrefused hstage)

theorem close_bridge_id (id : BridgeId) (c : Call) :
    (c.closeBridge id).stage.bridgeId? = c.stage.bridgeId? := by
  obtain ⟨generation, stage⟩ := c
  cases stage with
  | bridged own bridge point =>
      simp only [Call.closeBridge]
      split <;> rfl
  | dialing client => rfl
  | failed client error => rfl
  | dialed client server => rfl

/-- Closing a bridge touches the call that has it and no other. -/
theorem close_bridge_cases {id own : BridgeId} {c : Call} {bridge : Bridge} {point : Call.Point}
    (h : (c.closeBridge id).stage = .bridged own bridge point) :
    (c.closeBridge id).generation = c.generation ∧
      (own ≠ id ∧ c.stage = .bridged own bridge point ∨
        own = id ∧ ∃ old, bridge = old.close ∧ c.stage = .bridged own old point) := by
  obtain ⟨generation, stage⟩ := c
  cases stage with
  | bridged own' old point' =>
      simp only [Call.closeBridge] at h ⊢
      split at h
      · obtain ⟨rfl, rfl, rfl⟩ := Call.Stage.bridged.inj h
        exact ⟨by simp [*], .inr ⟨‹_›, old, rfl, rfl⟩⟩
      · obtain ⟨rfl, rfl, rfl⟩ := Call.Stage.bridged.inj h
        exact ⟨by simp [*], .inl ⟨‹_›, rfl⟩⟩
  | dialing client => cases h
  | failed client error => cases h
  | dialed client server => cases h

/-- A sever that goes on from another stage than the first leaves the raised ones alone. -/
theorem raised_or_of_set {severs : List Sever} {k : Nat} {sever : Sever} (sever' : Sever)
    (h : severs[k]? = some sever) (hne : sever ≠ .raised) (j : Nat) (other : Sever)
    (hother : (severs.set k sever')[j]? = some other) :
    other = .raised ∨ ∃ before, severs[j]? = some before ∧ before ≠ .raised := by
  rw [getElem?_set_of_getElem? h] at hother
  split at hother
  · exact .inr ⟨sever, ‹k = j› ▸ h, hne⟩
  · by_cases heq : other = .raised
    · exact .inl heq
    · exact .inr ⟨other, hother, heq⟩

/-- A sweep hands every registered bridge to its sever. -/
theorem Custody.sweep {registry : Registry} {severs : List Sever} {generation k : Nat}
    {id : BridgeId} {bridge : Bridge} {point : Call.Point}
    (h : Custody registry severs generation id bridge point) (hraised : severs[k]? = some .raised) :
    Custody registry.sweep.2 (severs.set k (.closing registry.members)) generation id bridge
      point where
  created := h.created
  sound := h.sound
  fits := h.fits
  reached := fun hheld hclosed => by
    rcases h.reached hheld hclosed with hmem | hswept
    · exact .inr ⟨k, _, getElem?_set_self_of_getElem? hraised _, hmem⟩
    · exact .inr (hswept.set_of_ne hraised (by simp))
  gone := by simp [Registry.sweep]
  past := by simpa using h.past
  unswept := by simp [Registry.sweep]

/-- A sever that closes one of its bridges still holds the others. -/
theorem IsSwept.close_other {severs : List Sever} {k pick : Nat} {ids : List BridgeId}
    {id other : BridgeId} (hswept : IsSwept severs other) (hclosing : severs[k]? = some (.closing ids))
    (hid : ids[pick]? = some id) (hne : other ≠ id) :
    IsSwept (severs.set k (.closing (ids.eraseIdx pick))) other := by
  obtain ⟨j, left, hleft, hmem⟩ := hswept
  by_cases hj : k = j
  · subst hj
    obtain rfl := Sever.closing.inj (Option.some.inj (hclosing.symm.trans hleft))
    obtain ⟨n, hn⟩ := List.getElem?_of_mem hmem
    refine ⟨k, _, getElem?_set_self_of_getElem? hclosing _, ?_⟩
    refine List.mem_eraseIdx_iff_getElem?.mpr ⟨n, ?_, hn⟩
    rintro rfl
    exact hne (Option.some.inj (hn.symm.trans hid))
  · exact ⟨j, left, by rw [getElem?_set_of_getElem? hclosing, if_neg hj, hleft], hmem⟩

/-- A closed bridge needs nobody to answer for it. -/
theorem Custody.close {registry : Registry} {severs : List Sever} {generation : Nat}
    {id : BridgeId} {bridge : Bridge} {point : Call.Point}
    (h : Custody registry severs generation id bridge point) :
    Custody registry severs generation id bridge.close point :=
  { h with
    sound := h.sound.close
    fits := h.fits.close
    reached := fun _ hopen => by simp at hopen }

theorem close_bridge_refused {id : BridgeId} {c : Call} {client : Duplex} {error : ProxyError}
    (h : (c.closeBridge id).stage = .failed client error) : c.stage = .failed client error := by
  obtain ⟨generation, stage⟩ := c
  cases stage with
  | bridged own bridge point =>
      simp only [Call.closeBridge] at h
      split at h <;> cases h
  | dialing client => exact h
  | failed client error => exact h
  | dialed client server => exact h

/-- Whatever a sever does, the backend stays consistent. -/
theorem Consistent.sever_advance (h : b.Consistent) {k : Nat} {next : Backend}
    (hadvance : SeverAdvance b k next) : next.Consistent := by
  cases hadvance with
  | sweep hraised =>
      simpa using h.with_severs b.registry.sweep.2 (b.severs.set k (.closing b.registry.members)) id
        (by simp) List.nodup_nil (by simp [Registry.sweep]) (fun _ => rfl)
        (fun hc hstage => (h.custody hc hstage).sweep hraised) (fun hfailed => hfailed)
  | close ids pick own hclosing hown =>
      refine h.with_severs b.registry (b.severs.set k (.closing (ids.eraseIdx pick)))
        (Call.closeBridge own) (by simp) h.nodup (fun _ hmem => hmem) (close_bridge_id own) ?_
        close_bridge_refused
      intro i c other bridge point hc hstage
      obtain ⟨hgeneration, hcases⟩ := close_bridge_cases hstage
      have hraised := raised_or_of_set (.closing (ids.eraseIdx pick)) hclosing (by simp)
      rw [hgeneration]
      rcases hcases with ⟨hne, hbefore⟩ | ⟨rfl, old, rfl, hbefore⟩
      · exact (h.custody hc hbefore).with_severs (by simp)
          (fun _ hswept => hswept.close_other hclosing hown hne) hraised
      · exact (h.custody hc hbefore).close.with_severs (by simp) (fun hopen => by simp at hopen)
          hraised
  | conclude hclosing =>
      simpa using h.with_severs b.registry (b.severs.set k .returned) id (by simp) h.nodup (fun _ hmem => hmem) (fun _ => rfl)
        (fun hc hstage => (h.custody hc hstage).with_severs (by simp)
          (fun _ hswept => hswept.set_of_ne hclosing (by simp))
          (raised_or_of_set .returned hclosing (by simp)))
        (fun hfailed => hfailed)

/-- A new sever has not swept. -/
theorem Consistent.begin_sever (h : b.Consistent) : b.beginSever.1.Consistent := by
  have hget : ∀ (k : Nat) (sever : Sever), (b.severs ++ [.raised])[k]? = some sever →
      sever = .raised ∨ b.severs[k]? = some sever := by
    intro k sever hsever
    rw [List.getElem?_append] at hsever
    split at hsever
    · exact .inr hsever
    · exact .inl (by simpa using List.mem_of_getElem? hsever)
  have hswept : ∀ {id}, IsSwept b.severs id → IsSwept (b.severs ++ [.raised]) id := by
    rintro id ⟨k, ids, hids, hmem⟩
    exact ⟨k, ids, List.getElem?_append_left (List.getElem?_eq_some_iff.mp hids).1 ▸ hids, hmem⟩
  exact {
    generation_eq := by simpa [beginSever] using h.generation_eq
    nodup := h.nodup
    custody := fun hc hstage => (h.custody hc hstage).with_severs (by simp [beginSever])
      (fun _ => hswept) fun k sever hsever => by
        by_cases heq : sever = .raised
        · exact .inl heq
        · exact .inr ⟨sever, (hget k sever hsever).resolve_left heq, heq⟩
    owned := h.owned
    unique := h.unique
    refused := h.refused }

/-! ## What comes from outside -/

/-- A new call has no bridge. -/
theorem Consistent.begin_call (h : b.Consistent) (client : Duplex) (generation : Nat) :
    (b.beginCall client generation).Consistent := by
  have hget : ∀ {i : Nat} {c : Call}, (b.calls ++ [⟨generation, .dialing client⟩])[i]? = some c →
      b.calls[i]? = some c ∨ c = ⟨generation, .dialing client⟩ := by
    intro i c hc
    rw [List.getElem?_append] at hc
    split at hc
    · exact .inl hc
    · exact .inr (by simpa using List.mem_of_getElem? hc)
  constructor
  case generation_eq => exact h.generation_eq
  case nodup => exact h.nodup
  case custody =>
    intro i c id bridge point hc hstage
    rcases hget hc with hc | rfl
    · exact h.custody hc hstage
    · cases hstage
  case owned =>
    intro id hmem
    obtain ⟨i, c, hc, hown⟩ := h.owned id hmem
    exact ⟨i, c, List.getElem?_append_left (List.getElem?_eq_some_iff.mp hc).1 ▸ hc, hown⟩
  case unique =>
    intro i j c d id hc hd hown hown'
    rcases hget hc with hc | rfl
    · rcases hget hd with hd | rfl
      · exact h.unique hc hd hown hown'
      · cases hown'
    · cases hown
  case refused =>
    intro i c client' error hc hstage
    rcases hget hc with hc | rfl
    · exact h.refused hc hstage
    · cases hstage

/-- A call whose connection changes at a far end is in the same custody. -/
theorem Custody.with_connections {registry : Registry} {severs : List Sever} {generation : Nat}
    {id : BridgeId} {bridge : Bridge} {point : Call.Point}
    (h : Custody registry severs generation id bridge point) {client server : Duplex}
    (hclient : bridge.client.IsDropped → client.IsDropped)
    (hserver : bridge.server.IsDropped → server.IsDropped) :
    Custody registry severs generation id { bridge with client, server } point :=
  { h with
    sound := h.sound.with_connections hclient hserver
    fits := by cases point <;> exact h.fits }

/-- A call without a bridge may go to another such stage. -/
theorem Consistent.with_unbridged (h : b.Consistent) {i generation : Nat}
    {stage stage' : Call.Stage} (hc : b.calls[i]? = some ⟨generation, stage⟩)
    (hbefore : stage.bridgeId? = none) (hafter : stage'.bridgeId? = none)
    (hrefused : ∀ client error, stage' = .failed client error → client.IsDropped) :
    (b.withCall b.registry i ⟨generation, stage'⟩).Consistent := by
  refine h.with_call hc (Nat.le_refl _) h.nodup (fun _ hmem => .inl hmem)
    (fun _ hmem _ => hmem) (by simp [hbefore]) (by simp [hafter]) ?_ hrefused
  rintro id bridge point rfl
  cases hafter

/-- A change of a call leaves a backend alone that has no such call. -/
theorem modify_call_of_none {i : Nat} {f : Call → Call} (hc : b.calls[i]? = none) :
    b.modifyCall i f = b := by
  simp [modifyCall, List.modify_eq_self (List.getElem?_eq_none_iff.mp hc)]

theorem modify_call_eq {i : Nat} {f : Call → Call} {c : Call} (hc : b.calls[i]? = some c) :
    b.modifyCall i f = b.withCall b.registry i (f c) := by
  simp only [modifyCall, withCall, modify_eq_set_of_getElem? hc]

/-- What the far ends of its connections can do to a call: no connection that was dropped is there
again. -/
inductive Outside : Call.Stage → Call.Stage → Prop where
  | dialing (client client' : Duplex) : Outside (.dialing client) (.dialing client')
  | failed {client client' : Duplex} (error : ProxyError)
      (h : client.IsDropped → client'.IsDropped) :
      Outside (.failed client error) (.failed client' error)
  | dialed (client client' server server' : Duplex) :
      Outside (.dialed client server) (.dialed client' server')
  | bridged (id : BridgeId) (bridge : Bridge) (point : Call.Point) {client server : Duplex}
      (hclient : bridge.client.IsDropped → client.IsDropped)
      (hserver : bridge.server.IsDropped → server.IsDropped) :
      Outside (.bridged id bridge point) (.bridged id { bridge with client, server } point)

theorem map_client_outside (event : Duplex.FarEvent) (c : Call) :
    ∃ stage, c.mapClient (fun d => d.afterFar event) = { c with stage } ∧
      Outside c.stage stage := by
  obtain ⟨generation, stage⟩ := c
  cases stage with
  | dialing client => exact ⟨_, rfl, .dialing client _⟩
  | failed client error => exact ⟨_, rfl, .failed error fun h => h.after_far event⟩
  | dialed client server => exact ⟨_, rfl, .dialed client _ server server⟩
  | bridged id bridge point =>
      exact ⟨_, rfl, .bridged id bridge point (fun h => h.after_far event) fun h => h⟩

theorem map_server_outside (event : Duplex.FarEvent) (c : Call) :
    ∃ stage, c.mapServer (fun d => d.afterFar event) = { c with stage } ∧
      Outside c.stage stage := by
  obtain ⟨generation, stage⟩ := c
  cases stage with
  | dialing client => exact ⟨_, rfl, .dialing client client⟩
  | failed client error => exact ⟨_, rfl, .failed error fun h => h⟩
  | dialed client server => exact ⟨_, rfl, .dialed client client server _⟩
  | bridged id bridge point =>
      exact ⟨_, rfl, .bridged id bridge point (fun h => h) fun h => h.after_far event⟩

/-- What comes from outside keeps a backend consistent. -/
theorem Consistent.outside (h : b.Consistent) {i generation : Nat} {stage stage' : Call.Stage}
    (hc : b.calls[i]? = some ⟨generation, stage⟩) (hevent : Outside stage stage') :
    (b.withCall b.registry i ⟨generation, stage'⟩).Consistent := by
  cases hevent with
  | dialing client client' => exact h.with_unbridged hc rfl rfl (by simp)
  | failed error hdropped =>
      refine h.with_unbridged hc rfl rfl fun client error' heq => ?_
      obtain ⟨rfl, -⟩ := Call.Stage.failed.inj heq
      exact hdropped (h.refused hc rfl)
  | dialed client client' server server' => exact h.with_unbridged hc rfl rfl (by simp)
  | bridged id bridge point hclient hserver =>
      exact h.with_bridge hc ((h.custody hc rfl).with_connections hclient hserver)

/-! ## Actions -/

/-- What can become of a call of a given generation, with the registry after it: it advances by
itself, its dial ends, or something comes from outside. -/
inductive Touch (b : Backend) (generation : Nat) : Call.Stage → Registry → Call.Stage → Prop where
  | advance {stage stage' : Call.Stage} {registry : Registry}
      (h : Advance b generation stage registry stage') :
      Touch b generation stage registry stage'
  | succeed (client server : Duplex) :
      Touch b generation (.dialing client) b.registry (.dialed client server)
  | fail (client : Duplex) (error : ProxyError) :
      Touch b generation (.dialing client) b.registry (.failed client.drop error)
  | outside {stage stage' : Call.Stage} (h : Outside stage stage') :
      Touch b generation stage b.registry stage'

/-- Everything that an action can do to a backend. -/
inductive Transition (b : Backend) (action : Action) : Backend → Prop where
  | touch {i : Nat} {c : Call} {registry : Registry} {stage : Call.Stage}
      (hown : action.isOwn = true) (hc : b.calls[i]? = some c)
      (h : Touch b c.generation c.stage registry stage) :
      Transition b action (b.withCall registry i { c with stage })
  | setHealthy (healthy : Bool) (hown : action.isOwn = true) :
      Transition b action { b with healthy }
  | advanceSever {k : Nat} {next : Backend} (hown : action.isOwn = false)
      (h : SeverAdvance b k next) : Transition b action next
  | beginSever (hown : action.isOwn = false) : Transition b action b.beginSever.1
  | beginCall (client : Duplex) (generation : Nat) (hown : action.isOwn = false) :
      Transition b action (b.beginCall client generation)

theorem end_dial_transition {action : Action} (hown : action.isOwn = true) (i : Nat)
    (result : Except String Duplex) : Transition b action (b.endDial i result) := by
  unfold endDial
  split
  · rename_i generation client hc
    cases result with
    | ok server =>
        simp only [set_stage_eq hc]
        exact .touch hown hc (.succeed client server)
    | error detail =>
        simp only [set_stage_eq hc]
        exact .touch hown hc (.fail client (b.dialError detail))
  · exact .setHealthy b.healthy hown

theorem modify_call_transition {action : Action} (hown : action.isOwn = true) (i : Nat)
    {f : Call → Call} (hf : ∀ c, ∃ stage, f c = { c with stage } ∧ Outside c.stage stage) :
    Transition b action (b.modifyCall i f) := by
  cases hc : b.calls[i]? with
  | none =>
      rw [modify_call_of_none hc]
      exact .setHealthy b.healthy hown
  | some c =>
      obtain ⟨stage, heq, hevent⟩ := hf c
      rw [modify_call_eq hc, heq]
      exact .touch hown hc (.outside hevent)

/-- Every action is one of the transitions. -/
theorem step_transition {action : Action} {next : Backend} {effects : List Effect}
    (h : b.step action = some (next, effects)) : Transition b action next := by
  cases action with
  | stepCall i =>
      obtain ⟨c, registry, stage, hc, hadvance, rfl⟩ := step_call_cases h
      exact .touch rfl hc (.advance hadvance)
  | stepSever k pick => exact .advanceSever rfl (step_sever_cases h)
  | beginSever =>
      obtain rfl := congrArg Prod.fst (Option.some.inj h)
      exact .beginSever rfl
  | beginCall client generation =>
      obtain ⟨rfl, -⟩ := Prod.mk.inj (Option.some.inj h)
      exact .beginCall client generation rfl
  | endDial i result =>
      obtain ⟨rfl, -⟩ := Prod.mk.inj (Option.some.inj h)
      exact end_dial_transition rfl i result
  | clientEvent i event =>
      obtain ⟨rfl, -⟩ := Prod.mk.inj (Option.some.inj h)
      exact modify_call_transition rfl i (map_client_outside event)
  | serverEvent i event =>
      obtain ⟨rfl, -⟩ := Prod.mk.inj (Option.some.inj h)
      exact modify_call_transition rfl i (map_server_outside event)
  | setHealthy healthy =>
      obtain rfl := congrArg Prod.fst (Option.some.inj h)
      exact .setHealthy healthy rfl

theorem Consistent.touch (h : b.Consistent) {i generation : Nat} {stage stage' : Call.Stage}
    {registry : Registry} (hc : b.calls[i]? = some ⟨generation, stage⟩)
    (htouch : Touch b generation stage registry stage') :
    (b.withCall registry i ⟨generation, stage'⟩).Consistent := by
  cases htouch with
  | advance hadvance => exact h.advance hc hadvance
  | succeed client server => exact h.with_unbridged hc rfl rfl (by simp)
  | fail client error =>
      refine h.with_unbridged hc rfl rfl fun client' error' heq => ?_
      obtain ⟨rfl, -⟩ := Call.Stage.failed.inj heq
      exact client.drop_is_dropped
  | outside hevent => exact h.outside hc hevent

/-- Every action keeps a backend consistent. -/
theorem Consistent.step (h : b.Consistent) {action : Action} {next : Backend}
    {effects : List Effect} (hstep : b.step action = some (next, effects)) : next.Consistent := by
  cases step_transition hstep with
  | touch hown hc htouch => exact h.touch hc htouch
  | setHealthy healthy => exact ⟨h.generation_eq, h.nodup, h.custody, h.owned, h.unique, h.refused⟩
  | advanceSever hown hadvance => exact h.sever_advance hadvance
  | beginSever => exact h.begin_sever
  | beginCall client generation => exact h.begin_call client generation

/-! ## Runs -/

/-- What every action keeps, a run keeps. -/
theorem run_induction {P : Backend → Prop}
    (hstep : ∀ {b next : Backend} {action effects}, P b → b.step action = some (next, effects) →
      P next) {actions : List Action} {b last : Backend} (hrun : b.run actions = some last)
    (h : P b) : P last := by
  induction actions generalizing b with
  | nil => exact Option.some.inj hrun ▸ h
  | cons action rest ih =>
      obtain ⟨⟨next, effects⟩, hnext, hrest⟩ := Option.bind_eq_some_iff.mp hrun
      exact ih hrest (hstep h hnext)

/-- A consistent backend stays consistent in any interleaving of calls and severs. -/
theorem Consistent.run (h : b.Consistent) {actions : List Action} {last : Backend}
    (hrun : b.run actions = some last) : last.Consistent :=
  run_induction (fun hb hstep => hb.step hstep) hrun h

/-- A configured backend is consistent after every run. -/
theorem run_consistent {c : BackendConfig} {actions : List Action} {last : Backend}
    (hrun : (ofConfig c).run actions = some last) : last.Consistent :=
  (of_config_consistent c).run hrun

end GaleraProxy.Backend
