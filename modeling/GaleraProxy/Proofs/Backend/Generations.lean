import GaleraProxy.Proofs.Backend.Consistency

/-!
# Generations

A backend counts its severs, and a call keeps the generation in which its client was sent there.
`Consistent.generation_le_of_run` says that the count never falls, and `step_follows` that whatever
does not begin a call leaves the calls there are with the generations that they have.
-/

namespace GaleraProxy.Backend

variable {b : Backend}

theorem SeverAdvance.severs_length {k : Nat} {next : Backend} (h : SeverAdvance b k next) :
    next.severs.length = b.severs.length := by
  cases h <;> simp

/-- A sever leaves the others alone. -/
theorem SeverAdvance.severs_of_ne {k n : Nat} {next : Backend} (h : SeverAdvance b k next)
    (hne : n ≠ k) : next.severs[n]? = b.severs[n]? := by
  cases h <;> simp [hne.symm]

/-- No action takes back a sever. -/
theorem step_severs_length_le {action : Action} {next : Backend} {effects : List Effect}
    (h : b.step action = some (next, effects)) : b.severs.length ≤ next.severs.length := by
  cases step_transition h with
  | touch => exact Nat.le_refl _
  | setHealthy => exact Nat.le_refl _
  | advanceSever hown hadvance => exact Nat.le_of_eq hadvance.severs_length.symm
  | beginSever => simp [beginSever]
  | beginCall => exact Nat.le_refl _

/-- No action takes back a call. -/
theorem step_calls_length_le {action : Action} {next : Backend} {effects : List Effect}
    (h : b.step action = some (next, effects)) : b.calls.length ≤ next.calls.length := by
  cases step_transition h with
  | touch => simp [withCall]
  | setHealthy => exact Nat.le_refl _
  | advanceSever hown hadvance => cases hadvance <;> simp
  | beginSever => exact Nat.le_refl _
  | beginCall => simp [beginCall]

/-- The generation of a consistent backend never falls. -/
theorem Consistent.generation_le_of_run (h : b.Consistent) {actions : List Action} {last : Backend}
    (hrun : b.run actions = some last) : b.generation ≤ last.generation := by
  have hlength : b.severs.length ≤ last.severs.length :=
    run_induction (P := fun later => b.severs.length ≤ later.severs.length)
      (fun hle hstep => Nat.le_trans hle (step_severs_length_le hstep)) hrun (Nat.le_refl _)
  rwa [h.generation_eq, (h.run hrun).generation_eq]

/-- The generation of a backend has not fallen, and its calls have the generations that they had. -/
structure Follows (b b' : Backend) : Prop where
  generation_le : b.generation ≤ b'.generation
  calls : ∀ {i : Nat} {c' : Call}, b'.calls[i]? = some c' →
    ∃ c, b.calls[i]? = some c ∧ c.generation = c'.generation

theorem Follows.refl (b : Backend) : Follows b b :=
  ⟨Nat.le_refl _, fun hc => ⟨_, hc, rfl⟩⟩

theorem follows_with_call {registry : Registry} {i generation : Nat} {stage stage' : Call.Stage}
    (hc : b.calls[i]? = some ⟨generation, stage⟩) :
    Follows b (b.withCall registry i ⟨generation, stage'⟩) where
  generation_le := Nat.le_refl _
  calls := fun hc' => by
    rw [with_call_get hc] at hc'
    split at hc'
    · subst i
      obtain rfl := Option.some.inj hc'
      exact ⟨_, hc, rfl⟩
    · exact ⟨_, hc', rfl⟩

theorem close_bridge_generation (id : BridgeId) (c : Call) :
    (c.closeBridge id).generation = c.generation := by
  unfold Call.closeBridge
  split
  · split <;> rfl
  · rfl

theorem SeverAdvance.follows {k : Nat} {next : Backend} (h : SeverAdvance b k next) :
    Follows b next := by
  cases h with
  | sweep => exact ⟨Nat.le_refl _, fun hc => ⟨_, hc, rfl⟩⟩
  | conclude => exact ⟨Nat.le_refl _, fun hc => ⟨_, hc, rfl⟩⟩
  | close ids pick id =>
      refine ⟨Nat.le_refl _, fun hc' => ?_⟩
      obtain ⟨c, hc, rfl⟩ := Option.map_eq_some_iff.mp ((List.getElem?_map ..).symm.trans hc')
      exact ⟨c, hc, (close_bridge_generation id c).symm⟩

theorem begin_sever_follows (b : Backend) : Follows b b.beginSever.1 :=
  ⟨Nat.le_succ _, fun hc => ⟨_, hc, rfl⟩⟩

/-- What calls do, and what comes from outside, leaves all generations and all severs alone. -/
theorem step_follows {action : Action} {next : Backend} {effects : List Effect}
    (hown : action.isOwn = true) (h : b.step action = some (next, effects)) :
    Follows b next ∧ next.severs = b.severs := by
  cases step_transition h with
  | touch hown' hc htouch => exact ⟨follows_with_call hc, rfl⟩
  | setHealthy => exact ⟨⟨Nat.le_refl _, fun hc => ⟨_, hc, rfl⟩⟩, rfl⟩
  | advanceSever hother => cases hown.symm.trans hother
  | beginSever hother => cases hown.symm.trans hother
  | beginCall client generation hother => cases hown.symm.trans hother

end GaleraProxy.Backend
