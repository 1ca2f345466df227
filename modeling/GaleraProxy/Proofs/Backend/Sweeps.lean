import GaleraProxy.Proofs.Backend.Motion
import Mathlib.Data.List.Nodup

/-!
# What severs have swept

A sever that has swept the registry closes what it has swept. `Tidy` says that these are bridges of
calls, and that none is named twice; whatever a backend does keeps it so.
-/

namespace GaleraProxy.Backend

/-- Some call of the backend has the bridge with a number. -/
def Owns (b : Backend) (id : BridgeId) : Prop :=
  ∃ (i : Nat) (c : Call), b.calls[i]? = some c ∧ c.stage.bridgeId? = some id

/-- What a sever has yet to close are bridges of calls, each of them once. -/
structure Tidy (b : Backend) : Prop where
  nodup : ∀ {k : Nat} {ids : List BridgeId}, b.severs[k]? = some (.closing ids) → ids.Nodup
  owned : ∀ {k : Nat} {ids : List BridgeId} {id : BridgeId}, b.severs[k]? = some (.closing ids) →
    id ∈ ids → b.Owns id

variable {b : Backend}

theorem of_config_tidy (c : BackendConfig) : (ofConfig c).Tidy where
  nodup h := by simp [ofConfig] at h
  owned h := by simp [ofConfig] at h

/-- What is being closed was numbered before. -/
theorem Tidy.lt_created (h : b.Tidy) (hconsistent : b.Consistent) {k : Nat} {ids : List BridgeId}
    (hids : b.severs[k]? = some (.closing ids)) {id : BridgeId} (hid : id ∈ ids) :
    id < b.registry.created := by
  obtain ⟨i, c, hc, hown⟩ := h.owned hids hid
  exact hconsistent.id_lt hc hown

/-- A backend stays tidy while its severs stay and its calls keep their bridges. -/
theorem Tidy.of_owns (h : b.Tidy) {b' : Backend} (hsevers : b'.severs = b.severs)
    (howns : ∀ id, b.Owns id → b'.Owns id) : b'.Tidy where
  nodup hids := h.nodup (hsevers ▸ hids)
  owned hids hid := howns _ (h.owned (hsevers ▸ hids) hid)

theorem owns_with_call {i generation : Nat} {stage stage' : Call.Stage} {registry : Registry}
    (hc : b.calls[i]? = some ⟨generation, stage⟩)
    (hkept : ∀ id, stage.bridgeId? = some id → stage'.bridgeId? = some id) {id : BridgeId}
    (h : b.Owns id) : (b.withCall registry i ⟨generation, stage'⟩).Owns id := by
  obtain ⟨j, d, hd, hown⟩ := h
  by_cases hij : i = j
  · subst hij
    obtain rfl := Option.some.inj (hc.symm.trans hd)
    exact ⟨i, _, by rw [with_call_get hc, if_pos rfl], hkept id hown⟩
  · exact ⟨j, d, by rw [with_call_get hc, if_neg hij, hd], hown⟩

theorem owns_begin_call (client : Duplex) (generation : Nat) {id : BridgeId} (h : b.Owns id) :
    (b.beginCall client generation).Owns id := by
  obtain ⟨i, c, hc, hown⟩ := h
  have hlt := (List.getElem?_eq_some_iff.mp hc).1
  exact ⟨i, c, (List.getElem?_append_left hlt).trans hc, hown⟩

/-- Whatever becomes of a call, it keeps the number of its bridge. -/
theorem Touch.bridge_id {generation : Nat} {registry : Registry} {stage stage' : Call.Stage}
    (h : Touch b generation stage registry stage') {id : BridgeId}
    (hid : stage.bridgeId? = some id) : stage'.bridgeId? = some id := by
  cases h with
  | advance hadvance =>
      cases hadvance with
      | register client server => cases hid
      | _ => exact hid
  | succeed client server => cases hid
  | fail client error => cases hid
  | outside hevent => cases hevent <;> exact hid

/-- One sever may come to another point, as long as what it has yet to close is owned. -/
theorem Tidy.with_sever (h : b.Tidy) {next : Backend} {k : Nat} {sever sever' : Sever}
    (hsever : b.severs[k]? = some sever) (hsevers : next.severs = b.severs.set k sever')
    (howns : ∀ id, b.Owns id → next.Owns id)
    (hclosing : ∀ ids, sever' = .closing ids → ids.Nodup ∧ ∀ id ∈ ids, b.Owns id) :
    next.Tidy := by
  -- a list that is being closed is the one of this sever, or it is that of another one
  have hcases : ∀ {n : Nat} {ids : List BridgeId}, next.severs[n]? = some (.closing ids) →
      ids.Nodup ∧ ∀ id ∈ ids, b.Owns id := by
    intro n ids hids
    rw [hsevers, getElem?_set_of_getElem? hsever] at hids
    split at hids
    · exact hclosing ids (Option.some.inj hids)
    · exact ⟨h.nodup hids, fun id hid => h.owned hids hid⟩
  exact ⟨fun hids => (hcases hids).1, fun hids hid => howns _ ((hcases hids).2 _ hid)⟩

/-- Whatever a sever does, the backend stays tidy. -/
theorem Tidy.sever_advance (h : b.Tidy) (hconsistent : b.Consistent) {k : Nat} {next : Backend}
    (hadvance : SeverAdvance b k next) : next.Tidy := by
  cases hadvance with
  | sweep hraised =>
      refine h.with_sever hraised rfl (fun _ howns => howns) fun ids heq => ?_
      obtain rfl := Sever.closing.inj heq
      exact ⟨hconsistent.nodup, hconsistent.owned⟩
  | close ids pick own hclosing hown =>
      refine h.with_sever hclosing rfl ?_ fun left heq => ?_
      · rintro id ⟨i, c, hc, hid⟩
        exact ⟨i, c.closeBridge own, by simp [hc], (close_bridge_id own c).trans hid⟩
      · obtain rfl := Sever.closing.inj heq
        exact ⟨(h.nodup hclosing).sublist (List.eraseIdx_sublist ids pick),
          fun id hid => h.owned hclosing (List.mem_of_mem_eraseIdx hid)⟩
  | conclude hclosing =>
      refine h.with_sever hclosing rfl (fun _ howns => howns) fun ids heq => ?_
      cases heq

/-- Every action keeps a backend tidy. -/
theorem Tidy.step (h : b.Tidy) (hconsistent : b.Consistent) {action : Action} {next : Backend}
    {effects : List Effect} (hstep : b.step action = some (next, effects)) : next.Tidy := by
  cases step_transition hstep with
  | touch hown hc htouch =>
      exact h.of_owns rfl fun _ hid => owns_with_call hc (fun _ => htouch.bridge_id) hid
  | setHealthy healthy => exact ⟨h.nodup, h.owned⟩
  | advanceSever hown hadvance => exact h.sever_advance hconsistent hadvance
  | beginSever =>
      have hbefore : ∀ {k : Nat} {ids : List BridgeId},
          (b.severs ++ [.raised])[k]? = some (.closing ids) →
          b.severs[k]? = some (.closing ids) := by
        intro k ids hids
        rw [List.getElem?_append] at hids
        split at hids
        · exact hids
        · cases List.mem_singleton.mp (List.mem_of_getElem? hids)
      exact ⟨fun hids => h.nodup (hbefore hids), fun hids hid => h.owned (hbefore hids) hid⟩
  | beginCall client generation =>
      exact h.of_owns rfl fun _ hid => owns_begin_call client generation hid

/-- All backends of a list are tidy. -/
def AllTidy (backends : List Backend) : Prop :=
  ∀ ⦃j : Nat⦄ ⦃b : Backend⦄, backends[j]? = some b → b.Tidy

theorem all_tidy_of_config (configs : List BackendConfig) : AllTidy (configs.map ofConfig) := by
  intro j b hb
  rw [List.getElem?_map, Option.map_eq_some_iff] at hb
  obtain ⟨c, -, rfl⟩ := hb
  exact of_config_tidy c

theorem AllTidy.onward {backends backends' : List Backend} (h : AllTidy backends)
    (hconsistent : AllConsistent backends) (honward : Onward backends backends') :
    AllTidy backends' := by
  intro j b' hb'
  obtain ⟨b, hb, hmoves⟩ := honward.before hb'
  rcases hmoves with rfl | ⟨action, effects, hstep⟩
  · exact h hb
  · exact (h hb).step (hconsistent hb) hstep

end GaleraProxy.Backend
