import GaleraProxy.Proofs.Backend.Motion
import GaleraProxy.Runner.Basic

/-!
# What a runner can do

A runner takes in a change, goes on with one, or accepts a client. `begin_change_cases`,
`step_change_cases` and `accept_cases` say what each of them comes to; all of them move the backends
by their own actions.
-/

namespace GaleraProxy

namespace Runner

/-- The runner waits and sends new clients to the backend at a place. -/
def Serves (r : Runner) (j : Nat) : Prop :=
  r.task = .idle ∧ r.active = some j ∧ r.trafficEnabled = true

instance (r : Runner) (j : Nat) : Decidable (r.Serves j) :=
  inferInstanceAs (Decidable (_ ∧ _ ∧ _))

/-- The runner is at a sever of the backend at a place. -/
def Attends (r : Runner) (j k : Nat) : Prop := ∃ change, r.task = .severing j k change

variable {r : Runner} {backends : List Backend}

theorem task_of_ready (h : r.isReady = true) : r.task = .idle := by
  simp only [isReady, Bool.and_eq_true, beq_iff_eq] at h
  exact h.2

/-- A client that is sent somewhere is sent to the backend that the runner serves. -/
theorem serves_of_route {j : Nat} (hready : r.isReady = true) (hroute : r.route = some j) :
    r.Serves j := by
  unfold route at hroute
  split at hroute
  · rename_i henabled
    simp only [Bool.and_eq_true] at henabled
    exact ⟨task_of_ready hready, hroute, henabled.2⟩
  · cases hroute

theorem not_attends_of_idle {j k : Nat} (h : r.task = .idle) : ¬ r.Attends j k := by
  rintro ⟨change, htask⟩
  cases h.symm.trans htask

/-! ## What a runner can do -/

/-- A change begins: it takes effect at once, or the backend that loses its clients is severed. -/
theorem begin_change_cases (r : Runner) (backends : List Backend) (change : Change) :
    ((r.beginChange backends change).1 = (r.applyChange backends change).1 ∧
      (r.beginChange backends change).2.1 = backends ∧
      ∀ i, r.severed? change = some i → backends[i]? = none) ∨
    ∃ i b, r.severed? change = some i ∧ backends[i]? = some b ∧
      (r.beginChange backends change).1 = { r with task := .severing i b.severs.length change } ∧
      (r.beginChange backends change).2.1 = backends.set i b.beginSever.1 := by
  cases hsevered : r.severed? change with
  | none => exact .inl (by simp [beginChange, hsevered])
  | some i =>
      cases hb : backends[i]? with
      | none =>
          refine .inl ⟨by simp [beginChange, hsevered, hb], by simp [beginChange, hsevered, hb], ?_⟩
          rintro j ⟨⟩
          exact hb
      | some b =>
          exact .inr ⟨i, b, rfl, hb, by simp [beginChange, hsevered, hb],
            by simp [beginChange, hsevered, hb]⟩

/-- A change goes on: its sever takes a step, or the change takes effect after the sever. -/
theorem step_change_cases {r' : Runner} {backends' : List Backend} {pick : Nat}
    {effects : List Effect} (h : r.stepChange backends pick = some (r', backends', effects)) :
    ∃ i k change b, r.task = .severing i k change ∧ backends[i]? = some b ∧
      (b.severs[k]? = some .returned ∧ r' = (r.applyChange backends change).1 ∧
          backends' = backends ∨
        ∃ next effects, b.stepSever k pick = some (next, effects) ∧ r' = r ∧
          backends' = backends.set i next) := by
  unfold stepChange at h
  split at h
  · cases h
  · rename_i i k change htask
    split at h
    · cases h
    · rename_i b hb
      refine ⟨i, k, change, b, htask, hb, ?_⟩
      split at h
      · obtain ⟨rfl, rfl, -⟩ := by simpa using h
        exact .inl ⟨‹_›, rfl, rfl⟩
      · obtain ⟨⟨next, shown⟩, hnext, heq⟩ := Option.map_eq_some_iff.mp h
        obtain ⟨rfl, rfl, -⟩ := by simpa using heq
        exact .inr ⟨next, shown, hnext, rfl, rfl⟩

/-- A client that connects is turned away, or a call begins at the backend of the route. -/
theorem accept_cases (r : Runner) (backends : List Backend) (client : Duplex) :
    r.accept backends client = backends ∨ ∃ i b, r.route = some i ∧ backends[i]? = some b ∧
      r.accept backends client = backends.set i (b.beginCall client b.generation) := by
  unfold accept
  split
  · exact .inl rfl
  · rename_i i hroute
    cases hb : backends[i]? with
    | none => exact .inl (List.modify_eq_self (List.getElem?_eq_none_iff.mp hb))
    | some b => exact .inr ⟨i, b, hroute, hb, modify_eq_set_of_getElem? hb⟩

theorem begin_change_onward (r : Runner) (backends : List Backend) (change : Change) :
    Backend.Onward backends (r.beginChange backends change).2.1 := by
  rcases r.begin_change_cases backends change with ⟨-, heq, -⟩ | ⟨i, b, -, hb, -, heq⟩
  · rw [heq]
    exact .refl backends
  · rw [heq]
    exact .set .beginSever hb rfl

theorem step_change_onward {r' : Runner} {backends' : List Backend} {pick : Nat}
    {effects : List Effect} (h : r.stepChange backends pick = some (r', backends', effects)) :
    Backend.Onward backends backends' := by
  obtain ⟨i, k, change, b, -, hb, ⟨-, -, rfl⟩ | ⟨next, shown, hnext, -, rfl⟩⟩ := step_change_cases h
  · exact .refl _
  · exact .set (.stepSever k pick) hb hnext

theorem accept_onward (r : Runner) (backends : List Backend) (client : Duplex) :
    Backend.Onward backends (r.accept backends client) := by
  rcases r.accept_cases backends client with heq | ⟨i, b, -, hb, heq⟩
  · rw [heq]
    exact .refl backends
  · rw [heq]
    exact .set (.beginCall client b.generation) hb rfl

/-- The backend that is severed is the active one. -/
theorem active_of_severed {change : Change} {i : Nat} (h : r.severed? change = some i) :
    r.active = some i := by
  cases change with
  | election next =>
      simp only [severed?] at h
      split at h
      · cases h
      · exact h
  | traffic enabled =>
      simp only [severed?] at h
      split at h
      · exact h
      · cases h

/-- A change that severs nobody leaves the runner at the backend that it serves. -/
theorem Serves.apply_change {j : Nat} {change : Change} (h : r.Serves j)
    (hsevered : r.severed? change ≠ some j) : (r.applyChange backends change).1.Serves j := by
  obtain ⟨htask, hactive, htraffic⟩ := h
  cases change with
  | election next =>
      have hnext : r.active = next := by
        by_cases heq : r.active = next
        · exact heq
        · exact absurd (by rw [severed?, if_neg heq, hactive]) hsevered
      exact ⟨rfl, hnext ▸ hactive, htraffic⟩
  | traffic enabled =>
      cases enabled with
      | true => exact ⟨rfl, hactive, rfl⟩
      | false => exact absurd (by simp [severed?, htraffic, hactive]) hsevered

/-! ## What a runner is about to be -/

/-- The active backend once the change that is taken in has taken effect. -/
def nextActive (r : Runner) : Option Nat :=
  match r.task with
  | .severing _ _ (.election next) => next
  | .severing _ _ (.traffic _) | .idle => r.active

/-- The traffic switch once the change that is taken in has taken effect. -/
def nextTraffic (r : Runner) : Bool :=
  match r.task with
  | .severing _ _ (.traffic enabled) => enabled
  | .severing _ _ (.election _) | .idle => r.trafficEnabled

theorem next_active_of_idle (h : r.task = .idle) : r.nextActive = r.active := by
  simp [nextActive, h]

theorem next_traffic_of_idle (h : r.task = .idle) : r.nextTraffic = r.trafficEnabled := by
  simp [nextTraffic, h]

/-- A runner that takes in an election is about to have it. -/
theorem begin_election_next (h : r.task = .idle) (backends : List Backend) (e : Option Nat) :
    (r.beginChange backends (.election e)).1.nextActive = e ∧
      (r.beginChange backends (.election e)).1.nextTraffic = r.nextTraffic := by
  rw [next_traffic_of_idle h]
  rcases r.begin_change_cases backends (.election e) with ⟨heq, -⟩ | ⟨i, b, -, -, heq, -⟩
  · rw [heq]
    exact ⟨rfl, rfl⟩
  · rw [heq]
    exact ⟨rfl, rfl⟩

/-- A runner that takes in a decision of the traffic switch is about to have it. -/
theorem begin_traffic_next (h : r.task = .idle) (backends : List Backend) (enabled : Bool) :
    (r.beginChange backends (.traffic enabled)).1.nextActive = r.nextActive ∧
      (r.beginChange backends (.traffic enabled)).1.nextTraffic = enabled := by
  rw [next_active_of_idle h]
  rcases r.begin_change_cases backends (.traffic enabled) with ⟨heq, -⟩ | ⟨i, b, -, -, heq, -⟩
  · rw [heq]
    exact ⟨rfl, rfl⟩
  · rw [heq]
    exact ⟨rfl, rfl⟩

/-- A runner that goes on with a change is about to have what it was about to have. -/
theorem step_change_next {r' : Runner} {backends' : List Backend} {pick : Nat}
    {effects : List Effect} (h : r.stepChange backends pick = some (r', backends', effects)) :
    r'.nextActive = r.nextActive ∧ r'.nextTraffic = r.nextTraffic := by
  obtain ⟨i, k, change, b, htask, -, ⟨-, rfl, -⟩ | ⟨next, shown, -, rfl, -⟩⟩ := step_change_cases h
  · cases change with
    | election next => simp [nextActive, nextTraffic, htask, applyChange]
    | traffic enabled => simp [nextActive, nextTraffic, htask, applyChange]
  · exact ⟨rfl, rfl⟩

theorem begin_change_phase (r : Runner) (backends : List Backend) (change : Change) :
    (r.beginChange backends change).1.phase = r.phase := by
  rcases r.begin_change_cases backends change with ⟨heq, -⟩ | ⟨i, b, -, -, heq, -⟩
  · rw [heq]
    cases change <;> rfl
  · rw [heq]

theorem step_change_phase {r' : Runner} {backends' : List Backend} {pick : Nat}
    {effects : List Effect} (h : r.stepChange backends pick = some (r', backends', effects)) :
    r'.phase = r.phase := by
  obtain ⟨i, k, change, b, -, -, ⟨-, rfl, -⟩ | ⟨next, shown, -, rfl, -⟩⟩ := step_change_cases h
  · cases change <;> rfl
  · rfl

/-! ## Moves -/

/-- Only where the runners stand may be different. -/
structure Agrees (r r' : Runner) : Prop where
  task : r'.task = r.task
  active : r'.active = r.active
  traffic : r'.trafficEnabled = r.trafficEnabled

theorem request_shutdown_agrees (r : Runner) (now : Moment) :
    r.Agrees (r.requestShutdown now).1 := by
  unfold requestShutdown
  split <;> exact ⟨rfl, rfl, rfl⟩

theorem tick_agrees (r : Runner) (now : Moment) : r.Agrees (r.tick now).1 := by
  unfold tick
  split
  · split <;> exact ⟨rfl, rfl, rfl⟩
  · exact ⟨rfl, rfl, rfl⟩
  · exact ⟨rfl, rfl, rfl⟩
  · exact ⟨rfl, rfl, rfl⟩

/-- Everything that can happen to a runner and its backends, as far as the runner sees to it. -/
inductive Move (r : Runner) (backends : List Backend) : Runner → List Backend → Prop where
  | stay (r' : Runner) (h : r.Agrees r') : Move r backends r' backends
  | begin (change : Change) (h : r.isReady = true) :
      Move r backends (r.beginChange backends change).1 (r.beginChange backends change).2.1
  | go {r' : Runner} {backends' : List Backend} {pick : Nat} {effects : List Effect}
      (h : r.stepChange backends pick = some (r', backends', effects)) :
      Move r backends r' backends'
  | accept (client : Duplex) (h : r.isReady = true) :
      Move r backends r (r.accept backends client)
  | aside {backends' : List Backend} (h : Backend.Aside backends backends') :
      Move r backends r backends'

theorem Move.onward {r' : Runner} {backends' : List Backend} (h : r.Move backends r' backends') :
    Backend.Onward backends backends' := by
  cases h with
  | stay => exact .refl backends
  | begin change => exact r.begin_change_onward backends change
  | go hstep => exact step_change_onward hstep
  | accept client => exact r.accept_onward backends client
  | aside haside => exact haside.onward

end Runner

end GaleraProxy
