import GaleraProxy.Session.Registering
import Mathlib.Data.List.Perm.Basic

/-!
# The registry loses and doubles nothing

Every bridge that was created is in one place: it is registered, or it was removed, or a sweep took
it out; and every bridge that a sweep took out has been closed or is yet to be closed by this sweep.
`Registering.Accounts` says so with permutations, so that nothing is counted twice, and every step
keeps it.
-/

namespace GaleraProxy

open scoped List

namespace Registry

variable {r : Registry} {id : BridgeId}

theorem contains_eq_decide (r : Registry) (id : BridgeId) :
    r.contains id = decide (id ∈ r.members) := by
  simp [contains]

/-- A registered bridge can be removed, and no other leaves with it. -/
theorem remove_of_mem (h : id ∈ r.members) :
    r.remove id = .ok { r with members := r.members.erase id } := by
  simp [remove, remove?, contains, h]

/-- A bridge that is not registered is not found. -/
theorem remove_of_not_mem (h : id ∉ r.members) :
    r.remove id = .error (.bridgeNotFound (toString id)) := by
  simp [remove, remove?, contains, h]

end Registry

namespace Registering

variable {s t : Registering} {signs seen : List Sign}

/-! ## What has been seen -/

theorem created_append (first second : List Sign) :
    created (first ++ second) = created first ++ created second := List.filterMap_append

theorem removed_append (first second : List Sign) :
    removed (first ++ second) = removed first ++ removed second := List.filterMap_append

theorem swept_append (first second : List Sign) :
    swept (first ++ second) = swept first ++ swept second := List.flatMap_append

theorem closed_append (first second : List Sign) :
    closed (first ++ second) = closed first ++ closed second := List.filterMap_append

theorem swept_swept (ids : List BridgeId) : swept [.swept ids] = ids := List.append_nil ids

/-! ## What every step keeps -/

/-- What comes in during a step and what was there are what is there after it and what goes out. -/
structure Balances (s t : Registering) (seen : List Sign) : Prop where
  numbers : List.range s.registry.created ++ created seen = List.range t.registry.created
  members : created seen ++ s.registry.members ~ t.registry.members ++ (removed seen ++ swept seen)
  sweeps : swept seen ++ s.sweeps.flatten ~ closed seen ++ t.sweeps.flatten

/-- Closing a bridge takes it out of what its sweep has yet to close. -/
theorem flatten_perm_cons_set {lists : List (List BridgeId)} {k i : Nat} {ids : List BridgeId}
    {id : BridgeId} (hk : lists[k]? = some ids) (hi : ids[i]? = some id) :
    lists.flatten ~ id :: (lists.set k (ids.eraseIdx i)).flatten := by
  obtain ⟨hlt, rfl⟩ := List.getElem?_eq_some_iff.mp hk
  obtain ⟨hlt', rfl⟩ := List.getElem?_eq_some_iff.mp hi
  calc lists.flatten
      _ ~ lists[k] ++ (lists.eraseIdx k).flatten :=
        (List.getElem_cons_eraseIdx_perm hlt).symm.flatten
      _ ~ lists[k][i] :: (lists[k].eraseIdx i ++ (lists.eraseIdx k).flatten) :=
        (List.getElem_cons_eraseIdx_perm hlt').symm.append_right _
      _ ~ lists[k][i] :: (lists.set k (lists[k].eraseIdx i)).flatten :=
        ((List.set_perm_cons_eraseIdx hlt _).flatten.symm).cons _

theorem step_balances {action : Action} (h : s.step action = some (t, seen)) :
    s.Balances t seen := by
  cases action with
  | create =>
      obtain ⟨rfl, rfl⟩ := Prod.mk.inj (Option.some.inj h)
      refine ⟨List.range_succ.symm, ?_, .rfl⟩
      exact List.perm_append_comm.trans (.of_eq (List.append_nil _).symm)
  | remove id =>
      simp only [step] at h
      by_cases hmem : id ∈ s.registry.members
      · rw [Registry.remove_of_mem hmem] at h
        obtain ⟨rfl, rfl⟩ := Prod.mk.inj (Option.some.inj h)
        exact ⟨List.append_nil _,
          (List.perm_cons_erase hmem).trans (List.perm_append_singleton id _).symm, .rfl⟩
      · rw [Registry.remove_of_not_mem hmem] at h
        obtain ⟨rfl, rfl⟩ := Prod.mk.inj (Option.some.inj h)
        exact ⟨List.append_nil _, .of_eq (List.append_nil _).symm, .rfl⟩
  | contains | size =>
      obtain ⟨rfl, rfl⟩ := Prod.mk.inj (Option.some.inj h)
      exact ⟨List.append_nil _, .of_eq (List.append_nil _).symm, .rfl⟩
  | sweep =>
      obtain ⟨rfl, rfl⟩ := Prod.mk.inj (Option.some.inj h)
      refine ⟨List.append_nil _, .of_eq (swept_swept _).symm, ?_⟩
      rw [swept_swept, List.flatten_concat]
      exact List.perm_append_comm
  | close k pick =>
      obtain ⟨ids, hk, hpick⟩ := Option.bind_eq_some_iff.mp h
      obtain ⟨id, hid, heq⟩ := Option.map_eq_some_iff.mp hpick
      obtain ⟨rfl, rfl⟩ := Prod.mk.inj heq
      exact ⟨List.append_nil _, .of_eq (List.append_nil _).symm, flatten_perm_cons_set hk hid⟩

/-- Where the bridges are that were created, and which of those that were swept have been closed. -/
structure Accounts (s : Registering) (signs : List Sign) : Prop where
  numbers : created signs = List.range s.registry.created
  members : created signs ~ s.registry.members ++ (removed signs ++ swept signs)
  sweeps : swept signs ~ closed signs ++ s.sweeps.flatten

theorem start_accounts : start.Accounts [] := ⟨rfl, .nil, .nil⟩

theorem Accounts.step (h : s.Accounts signs) (hstep : s.Balances t seen) :
    t.Accounts (signs ++ seen) where
  numbers := by rw [created_append, h.numbers, hstep.numbers]
  members := by
    -- counted bridge by bridge, both balances are sums
    refine List.perm_iff_count.mpr fun id => ?_
    have hbefore := h.members.count_eq id
    have hnow := hstep.members.count_eq id
    simp only [created_append, removed_append, swept_append, List.count_append] at hbefore hnow ⊢
    omega
  sweeps := by
    refine List.perm_iff_count.mpr fun id => ?_
    have hbefore := h.sweeps.count_eq id
    have hnow := hstep.sweeps.count_eq id
    simp only [swept_append, closed_append, List.count_append] at hbefore hnow ⊢
    omega

/-! ## What follows from the accounts -/

theorem Accounts.created_nodup (h : s.Accounts signs) : (created signs).Nodup := by
  rw [h.numbers]
  exact List.nodup_range

/-- No bridge is in two places. -/
theorem Accounts.places_nodup (h : s.Accounts signs) :
    (s.registry.members ++ (removed signs ++ swept signs)).Nodup :=
  h.members.nodup_iff.mp h.created_nodup

/-- The members are the bridges that were created and have not left. -/
theorem Accounts.members_perm (h : s.Accounts signs) : s.registry.members ~ remaining signs := by
  obtain ⟨hmembers, -, hapart⟩ := List.nodup_append.mp h.places_nodup
  have hleft (id : BridgeId) : (id ∉ removed signs ∧ id ∉ swept signs) ↔
      id ∉ removed signs ++ swept signs := by
    rw [List.mem_append, not_or]
  refine (List.perm_ext_iff_of_nodup hmembers (h.created_nodup.filter _)).mpr fun id => ?_
  rw [List.mem_filter, h.members.mem_iff, decide_eq_true_eq, hleft, List.mem_append]
  constructor
  · exact fun hmem => ⟨.inl hmem, fun hgone => hapart id hmem id hgone rfl⟩
  · exact fun ⟨hmem, hgone⟩ => hmem.resolve_right hgone

/-- A bridge leaves once at most. -/
theorem Accounts.leaves_once (h : s.Accounts signs) (id : BridgeId) :
    (removed signs).count id + (swept signs).count id ≤ 1 := by
  have hcount := List.nodup_iff_count.mp h.places_nodup id
  simp only [List.count_append] at hcount
  omega

/-- When no sweep is going on, exactly the swept bridges have been closed, each of them once. -/
theorem Accounts.closed_count (h : s.Accounts signs) (hdone : ∀ ids ∈ s.sweeps, ids = [])
    (id : BridgeId) : (closed signs).count id = if id ∈ swept signs then 1 else 0 := by
  have hcount := h.sweeps.count_eq id
  rw [List.count_append, List.flatten_eq_nil_iff.mpr hdone, List.count_nil] at hcount
  have honce := h.leaves_once id
  split
  · have hpos := List.count_pos_iff.mpr ‹id ∈ swept signs›
    omega
  · have hzero := List.count_eq_zero.mpr ‹id ∉ swept signs›
    omega

/-- For every run of a registry. The members are the bridges that were created and neither removed
nor swept, and `size` is their number. A bridge can be removed if and only if it is a member;
otherwise it is not found and nothing changes. No bridge leaves twice, and `close` is called at most
once on a bridge and only on swept ones: on all of them when no sweep is going on. A sweep that is
going on can close any of the bridges that it has yet to close. -/
theorem bridges_accounted (actions : List Action) {s : Registering} {signs : List Sign}
    (hrun : start.run actions = some (s, signs)) :
    ((created signs).Nodup ∧
      s.registry.members ~ remaining signs ∧ s.registry.size = (remaining signs).length) ∧
    (∀ id,
      (id ∈ s.registry.members → s.step (.remove id) =
        some ({ s with registry.members := s.registry.members.erase id }, [.removed id])) ∧
      (id ∉ s.registry.members →
        s.step (.remove id) = some (s, [.refused (.bridgeNotFound (toString id))])) ∧
      s.step (.contains id) = some (s, [.answered (decide (id ∈ s.registry.members))])) ∧
    s.step .size = some (s, [.counted s.registry.members.length]) ∧
    (∀ id, (removed signs).count id + (swept signs).count id ≤ 1 ∧
      (closed signs).count id ≤ (swept signs).count id) ∧
    ((∀ ids ∈ s.sweeps, ids = []) →
      ∀ id, (closed signs).count id = if id ∈ swept signs then 1 else 0) ∧
    ∀ k ids pick, s.sweeps[k]? = some ids → pick < ids.length →
      (s.step (.close k pick)).isSome = true := by
  have h : s.Accounts signs :=
    run_steps_induction (fun h hstep => h.step (step_balances hstep)) hrun start_accounts
  refine ⟨⟨h.created_nodup, h.members_perm, h.members_perm.length_eq⟩, fun id => ⟨?_, ?_, ?_⟩,
    rfl, fun id => ⟨h.leaves_once id, ?_⟩, h.closed_count, ?_⟩
  · intro hmem
    simp only [step, Registry.remove_of_mem hmem]
  · intro hmem
    simp only [step, Registry.remove_of_not_mem hmem]
  · simp only [step, Registry.contains_eq_decide]
  · have hcount := h.sweeps.count_eq id
    rw [List.count_append] at hcount
    omega
  · intro k ids pick hk hlt
    simp [step, hk, hlt]

/-- Bridges come and go while a sweep closes what it took out, and another sweep overtakes it. -/
def overlappingSweeps : List Action :=
  [.create, .create, .create, .sweep, .create, .close 0 1, .remove 0, .remove 3, .create, .sweep,
    .close 1 0, .contains 4, .close 0 0, .create, .close 0 0, .size]

/-- The bridge that was removed is not closed, and those of both sweeps are. -/
theorem bridges_accounted_of_overlapping_sweeps : ∃ s signs,
    start.run overlappingSweeps = some (s, signs) ∧ (∀ ids ∈ s.sweeps, ids = []) ∧
    removed signs = [3] ∧ .refused (.bridgeNotFound "0") ∈ signs ∧ s.registry.members ~ [5] ∧
    ∀ id, (closed signs).count id = if id ∈ [0, 1, 2, 4] then 1 else 0 := by
  have hend : (start.run overlappingSweeps).any (fun (s, signs) =>
      (∀ ids ∈ s.sweeps, ids = []) ∧ removed signs = [3] ∧ swept signs = [0, 1, 2, 4] ∧
      .refused (.bridgeNotFound "0") ∈ signs ∧ remaining signs = [5]) = true := by
    decide +kernel
  obtain ⟨⟨s, signs⟩, hrun, hlast⟩ := (Option.any_eq_true _ _).mp hend
  obtain ⟨hdone, hremoved, hswept, hrefused, hleft⟩ := of_decide_eq_true hlast
  obtain ⟨⟨-, hmembers, -⟩, -, -, -, hclosed, -⟩ := bridges_accounted overlappingSweeps hrun
  rw [hleft] at hmembers
  rw [hswept] at hclosed
  exact ⟨s, signs, hrun, hdone, hremoved, hrefused, hmembers, hclosed hdone⟩

end Registering

end GaleraProxy
