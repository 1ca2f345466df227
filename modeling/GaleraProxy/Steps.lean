/-!
# Runs of a system

A system takes one step after the other, and something may be seen of each step. `runSteps` is a
run, and `run_steps_induction` says that what every step keeps holds in the end.
-/

namespace GaleraProxy

variable {σ ι β : Type}

/-- The state after a run and all that was to be seen of it, or `none` if a step cannot be taken. -/
def runSteps (step : σ → ι → Option (σ × List β)) (s : σ) : List ι → Option (σ × List β)
  | [] => some (s, [])
  | first :: rest =>
      (step s first).bind fun (next, seen) =>
        (runSteps step next rest).map fun (last, others) => (last, seen ++ others)

/-- A run takes its first step and goes on from there. -/
theorem run_steps_cons {step : σ → ι → Option (σ × List β)} {s last : σ} {i : ι} {rest : List ι}
    {shown : List β} : runSteps step s (i :: rest) = some (last, shown) ↔
      ∃ next first others, step s i = some (next, first) ∧
        runSteps step next rest = some (last, others) ∧ shown = first ++ others := by
  constructor
  · intro h
    obtain ⟨⟨next, first⟩, hnext, hrest⟩ := Option.bind_eq_some_iff.mp h
    obtain ⟨⟨last', others⟩, hothers, heq⟩ := Option.map_eq_some_iff.mp hrest
    obtain ⟨rfl, rfl⟩ := Prod.mk.inj heq
    exact ⟨next, first, others, hnext, hothers, rfl⟩
  · rintro ⟨next, first, others, hnext, hothers, rfl⟩
    simp only [runSteps, hnext, hothers, Option.bind_some, Option.map_some]

/-- What every step keeps, a run keeps. -/
theorem run_steps_induction {step : σ → ι → Option (σ × List β)} {P : σ → List β → Prop}
    (hstep : ∀ {s s' : σ} {seen more : List β} {i : ι},
      P s seen → step s i = some (s', more) → P s' (seen ++ more))
    {steps : List ι} {s last : σ} {seen shown : List β}
    (hrun : runSteps step s steps = some (last, shown)) (h : P s seen) :
    P last (seen ++ shown) := by
  induction steps generalizing s seen shown with
  | nil =>
      obtain ⟨rfl, rfl⟩ := Prod.mk.inj (Option.some.inj hrun)
      rwa [List.append_nil]
  | cons i rest ih =>
      obtain ⟨next, first, others, hnext, hothers, rfl⟩ := run_steps_cons.mp hrun
      rw [← List.append_assoc]
      exact ih hothers (hstep h hnext)

/-- What every step keeps, whatever is seen of it, a run keeps. -/
theorem run_steps_keep {step : σ → ι → Option (σ × List β)} {P : σ → Prop}
    (hstep : ∀ {s s' : σ} {seen : List β} {i : ι}, P s → step s i = some (s', seen) → P s')
    {steps : List ι} {s last : σ} {shown : List β}
    (hrun : runSteps step s steps = some (last, shown)) (h : P s) : P last :=
  @run_steps_induction _ _ _ step (fun s _ => P s) hstep steps s last [] shown hrun h

end GaleraProxy
