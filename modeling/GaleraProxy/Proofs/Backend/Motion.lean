import GaleraProxy.Proofs.Backend.Barring

/-!
# Backends side by side

Whoever uses several backends moves them by their own actions. `Onward` says that each backend of a
list has taken at most one, so that what every action keeps holds of all backends afterwards;
`Aside` says in addition that none of them began a call or severed.
-/

namespace GaleraProxy.Backend

/-- The backend has taken at most one action. -/
def Moves (b b' : Backend) : Prop :=
  b' = b ∨ ∃ action effects, b.step action = some (b', effects)

theorem Consistent.moves {b b' : Backend} (h : b.Consistent) (hmoves : b.Moves b') :
    b'.Consistent := by
  rcases hmoves with rfl | ⟨action, effects, hstep⟩
  · exact h
  · exact h.step hstep

theorem Barred.moves {b b' : Backend} {i : Nat} (h : b.Barred i) (hmoves : b.Moves b') :
    b'.Barred i := by
  rcases hmoves with rfl | ⟨action, effects, hstep⟩
  · exact h
  · exact h.step hstep

theorem Moves.calls_length_le {b b' : Backend} (h : b.Moves b') :
    b.calls.length ≤ b'.calls.length := by
  rcases h with rfl | ⟨action, effects, hstep⟩
  · exact Nat.le_refl _
  · exact step_calls_length_le hstep

/-- Every backend of a list has taken at most one action. -/
structure Onward (backends backends' : List Backend) : Prop where
  length_eq : backends'.length = backends.length
  moves : ∀ {j : Nat} {b b' : Backend}, backends[j]? = some b → backends'[j]? = some b' →
    b.Moves b'

theorem Onward.refl (backends : List Backend) : Onward backends backends :=
  ⟨rfl, fun hb hb' => .inl (Option.some.inj (hb'.symm.trans hb))⟩

/-- One backend takes an action. -/
theorem Onward.set {backends : List Backend} {j : Nat} {b b' : Backend} (action : Action)
    {effects : List Effect} (hb : backends[j]? = some b)
    (hstep : b.step action = some (b', effects)) : Onward backends (backends.set j b') where
  length_eq := List.length_set
  moves := fun {k c c'} hc hc' => by
    rw [getElem?_set_of_getElem? hb] at hc'
    split at hc'
    · subst k
      obtain rfl := Option.some.inj (hb.symm.trans hc)
      obtain rfl := Option.some.inj hc'
      exact .inr ⟨action, effects, hstep⟩
    · exact .inl (Option.some.inj (hc'.symm.trans hc))

variable {backends backends' : List Backend}

/-- Whatever backend there is now was there before. -/
theorem Onward.before (h : Onward backends backends') {j : Nat} {b' : Backend}
    (hb' : backends'[j]? = some b') : ∃ b, backends[j]? = some b ∧ b.Moves b' := by
  have hlt : j < backends.length := h.length_eq ▸ (List.getElem?_eq_some_iff.mp hb').1
  exact ⟨backends[j], List.getElem?_eq_getElem hlt, h.moves (List.getElem?_eq_getElem hlt) hb'⟩

/-- Whatever backend there was is still there. -/
theorem Onward.after (h : Onward backends backends') {j : Nat} {b : Backend}
    (hb : backends[j]? = some b) : ∃ b', backends'[j]? = some b' ∧ b.Moves b' := by
  have hlt : j < backends'.length := h.length_eq ▸ (List.getElem?_eq_some_iff.mp hb).1
  exact ⟨backends'[j], List.getElem?_eq_getElem hlt, h.moves hb (List.getElem?_eq_getElem hlt)⟩

/-- Every backend of a list has taken at most one action, and none that begins a call or severs. -/
structure Aside (backends backends' : List Backend) : Prop where
  length_eq : backends'.length = backends.length
  moves : ∀ {j : Nat} {b b' : Backend}, backends[j]? = some b → backends'[j]? = some b' →
    b' = b ∨ ∃ action effects, action.isOwn = true ∧ b.step action = some (b', effects)

theorem Aside.onward (h : Aside backends backends') : Onward backends backends' where
  length_eq := h.length_eq
  moves := fun hb hb' =>
    (h.moves hb hb').imp_right fun ⟨action, effects, _, hstep⟩ => ⟨action, effects, hstep⟩

theorem Aside.refl (backends : List Backend) : Aside backends backends :=
  ⟨rfl, fun hb hb' => .inl (Option.some.inj (hb'.symm.trans hb))⟩

/-- The first backend takes an action of its own, and so do others. -/
theorem Aside.cons {b b' : Backend} (action : Action) {effects : List Effect}
    (h : Aside backends backends') (hown : action.isOwn = true)
    (hstep : b.step action = some (b', effects)) : Aside (b :: backends) (b' :: backends') where
  length_eq := congrArg Nat.succ h.length_eq
  moves := fun {j c c'} hc hc' => by
    cases j with
    | zero =>
        obtain rfl := Option.some.inj hc
        obtain rfl := Option.some.inj hc'
        exact .inr ⟨action, effects, hown, hstep⟩
    | succ j => exact h.moves hc hc'

/-- One backend takes an action of its own. -/
theorem Aside.set {j : Nat} {b b' : Backend} {action : Action} {effects : List Effect}
    (hb : backends[j]? = some b) (hown : action.isOwn = true)
    (hstep : b.step action = some (b', effects)) : Aside backends (backends.set j b') where
  length_eq := List.length_set
  moves := fun {k c c'} hc hc' => by
    rw [getElem?_set_of_getElem? hb] at hc'
    split at hc'
    · subst k
      obtain rfl := Option.some.inj (hb.symm.trans hc)
      obtain rfl := Option.some.inj hc'
      exact .inr ⟨action, effects, hown, hstep⟩
    · exact .inl (Option.some.inj (hc'.symm.trans hc))

/-- Calls keep their generations and severs stay where they are. -/
theorem Aside.before (h : Aside backends backends') {j : Nat} {b' : Backend}
    (hb' : backends'[j]? = some b') :
    ∃ b, backends[j]? = some b ∧ b.Follows b' ∧ b'.severs = b.severs := by
  have hlt : j < backends.length := h.length_eq ▸ (List.getElem?_eq_some_iff.mp hb').1
  have hb := List.getElem?_eq_getElem hlt
  refine ⟨backends[j], hb, ?_⟩
  rcases h.moves hb hb' with rfl | ⟨action, effects, hown, hstep⟩
  · exact ⟨.refl _, rfl⟩
  · exact step_follows hown hstep

/-! ## What stays as it was configured -/

/-- The backend as it was configured. -/
def asConfigured (b : Backend) : Backend :=
  { b with healthy := false, generation := 0, registry := .empty, calls := [], severs := [] }

/-- No action changes what is configured. -/
theorem step_as_configured {b b' : Backend} {action : Action} {effects : List Effect}
    (h : b.step action = some (b', effects)) : b'.asConfigured = b.asConfigured := by
  cases step_transition h with
  | advanceSever hown hadvance => cases hadvance <;> rfl
  | _ => rfl

/-- Backends that take actions stay as they were configured. -/
theorem Onward.as_configured (h : Onward backends backends') :
    backends'.map asConfigured = backends.map asConfigured := by
  apply List.ext_getElem?
  intro j
  rw [List.getElem?_map, List.getElem?_map]
  cases hb : backends[j]? with
  | none =>
      have hnone : backends'[j]? = none := by
        rw [List.getElem?_eq_none_iff, h.length_eq]
        exact List.getElem?_eq_none_iff.mp hb
      rw [hnone]
  | some b =>
      obtain ⟨b', hb', hmoves⟩ := h.after hb
      rw [hb', Option.map_some, Option.map_some]
      rcases hmoves with rfl | ⟨action, effects, hstep⟩
      · rfl
      · rw [step_as_configured hstep]

/-! ## What every backend keeps -/

/-- All backends of a list are consistent. -/
def AllConsistent (backends : List Backend) : Prop :=
  ∀ ⦃j : Nat⦄ ⦃b : Backend⦄, backends[j]? = some b → b.Consistent

/-- Configured backends are consistent. -/
theorem all_consistent_of_config (configs : List BackendConfig) :
    AllConsistent (configs.map ofConfig) := by
  intro j b hb
  rw [List.getElem?_map, Option.map_eq_some_iff] at hb
  obtain ⟨c, -, rfl⟩ := hb
  exact of_config_consistent c

theorem AllConsistent.onward (h : AllConsistent backends) (honward : Onward backends backends') :
    AllConsistent backends' := by
  intro j b' hb'
  obtain ⟨b, hb, hmoves⟩ := honward.before hb'
  exact (h hb).moves hmoves

/-- Some call of a backend at a place is barred. -/
def BarredAt (backends : List Backend) (j i : Nat) : Prop :=
  ∃ b, backends[j]? = some b ∧ b.Barred i

theorem BarredAt.onward {j i : Nat} (h : BarredAt backends j i)
    (honward : Onward backends backends') : BarredAt backends' j i := by
  obtain ⟨b, hb, hbarred⟩ := h
  obtain ⟨b', hb', hmoves⟩ := honward.after hb
  exact ⟨b', hb', hbarred.moves hmoves⟩

end GaleraProxy.Backend
