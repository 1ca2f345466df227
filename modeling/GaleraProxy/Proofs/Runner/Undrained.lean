import GaleraProxy.Proofs.Channel
import GaleraProxy.Proofs.Runner.Sessions
import GaleraProxy.Runner.Draining

/-!
# A runner that nobody has told to shut down

A runner that has been told to shut down serves as before. `Serving.undrained` is the same runner as
if nobody had told it, and `step_undrained` says that the two take the same steps and stay alike.
What is in force at a runner is what it heard last: `Hears` says what a step makes of a channel and
of the value on its other side, and `run_coming` what a run makes of them.
-/

namespace GaleraProxy

/-! ## The same runner, not told to shut down -/

namespace Runner

/-- The same runner, as if nobody had told it to shut down. -/
def undrained (r : Runner) : Runner := { r with phase := .serving }

variable {r : Runner} {backends : List Backend}

theorem undrained_ready (h : r.isRunning = true) : r.undrained.isReady = r.isReady := by
  simp only [isReady, h]
  rfl

theorem Agrees.next {r' : Runner} (h : r.Agrees r') :
    r'.nextActive = r.nextActive ∧ r'.nextTraffic = r.nextTraffic := by
  simp only [nextActive, nextTraffic, h.task, h.active, h.traffic, and_self]

theorem begin_change_delay (r : Runner) (backends : List Backend) (change : Change) :
    (r.beginChange backends change).1.shutdownDelay = r.shutdownDelay := by
  rcases r.begin_change_cases backends change with ⟨heq, -⟩ | ⟨i, b, -, -, heq, -⟩
  · rw [heq]
    cases change <;> rfl
  · rw [heq]

theorem step_change_delay {r' : Runner} {backends' : List Backend} {pick : Nat}
    {effects : List Effect} (h : r.stepChange backends pick = some (r', backends', effects)) :
    r'.shutdownDelay = r.shutdownDelay := by
  obtain ⟨i, k, change, b, -, -, ⟨-, rfl, -⟩ | ⟨next, shown, -, rfl, -⟩⟩ := step_change_cases h
  · cases change <;> rfl
  · rfl

theorem undrained_apply_change (r : Runner) (backends : List Backend) (change : Change) :
    r.undrained.applyChange backends change =
      ((r.applyChange backends change).1.undrained, (r.applyChange backends change).2) := by
  cases change <;> rfl

theorem undrained_begin_change (r : Runner) (backends : List Backend) (change : Change) :
    r.undrained.beginChange backends change =
      ((r.beginChange backends change).1.undrained, (r.beginChange backends change).2) := by
  have hsevered : r.undrained.severed? change = r.severed? change := by cases change <;> rfl
  unfold beginChange
  rw [hsevered]
  split
  · rw [undrained_apply_change]
  · rfl

theorem undrained_step_change (r : Runner) (backends : List Backend) (pick : Nat) :
    r.undrained.stepChange backends pick =
      (r.stepChange backends pick).map fun (next, others) => (next.undrained, others) := by
  have htask : r.undrained.task = r.task := rfl
  unfold stepChange
  rw [htask]
  split
  · rfl
  · split
    · rfl
    · split
      · rw [undrained_apply_change]
        rfl
      · rw [Option.map_map]
        rfl

theorem undrained_request_shutdown (r : Runner) (now : Moment) :
    (r.requestShutdown now).1.undrained = r.undrained := by
  unfold requestShutdown
  split <;> rfl

theorem undrained_accept (h : r.isRunning = true) (client : Duplex) :
    r.undrained.accept backends client = r.accept backends client := by
  simp only [accept, route, h]
  rfl

end Runner

namespace Serving

/-- The same runner at work, as if nobody had told it to shut down. -/
def undrained (s : Serving) : Serving := { s with runner := s.runner.undrained }

variable {s s' : Serving} {now : Moment} {action : Action}

@[simp] theorem undrained_runner (s : Serving) : s.undrained.runner = s.runner.undrained := rfl

@[simp] theorem undrained_backends (s : Serving) : s.undrained.backends = s.backends := rfl

@[simp] theorem undrained_elections (s : Serving) : s.undrained.elections = s.elections := rfl

@[simp] theorem undrained_traffic (s : Serving) : s.undrained.traffic = s.traffic := rfl

theorem undrained_begin_change (s : Serving) (change : Runner.Change) :
    s.undrained.beginChange change = (s.beginChange change).undrained := by
  unfold beginChange
  rw [undrained_runner, Runner.undrained_begin_change]
  rfl

/-- A runner that has been told to shut down takes the steps that it would have taken otherwise. -/
theorem step_undrained (hrunning : s.runner.isRunning = true)
    (hshutdown : action.isShutdown = false) :
    s.undrained.step now action = (s.step now action).map undrained := by
  -- a step asks where the runner stands only to see that it is running
  have hready : s.runner.undrained.isReady = s.runner.isReady := Runner.undrained_ready hrunning
  cases action with
  | elect | toggle =>
      simp only [step, Option.map_map]
      rfl
  | closeElections | closeTraffic => rfl
  | takeElection =>
      simp only [step, undrained_runner, undrained_elections, hready]
      split
      · cases s.elections.receive with
        | value next elections =>
            exact congrArg some (undrained_begin_change { s with elections } (.election next))
        | nothing | ended => rfl
      · rfl
  | takeTraffic =>
      simp only [step, undrained_runner, undrained_traffic, hready]
      split
      · cases s.traffic.receive with
        | value enabled traffic =>
            exact congrArg some (undrained_begin_change { s with traffic } (.traffic enabled))
        | nothing | ended => rfl
      · rfl
  | stepRunner pick =>
      simp only [step, undrained_runner, undrained_backends, Runner.undrained_step_change,
        Option.map_map]
      rfl
  | connect client =>
      simp only [step, undrained_runner, undrained_backends, hready,
        Runner.undrained_accept hrunning]
      split <;> rfl
  | atBackend place action =>
      simp only [step, undrained_backends]
      split
      · rw [Option.map_map]
        rfl
      · rfl
  | requestShutdown | stop => cases hshutdown

/-! ## What the runner hears -/

/-- What becomes of a channel and of the value that is in force on its other side, with the value
that is sent into it. -/
inductive Hears {α : Type} (c : Channel α) (v : α) : Channel α → α → Option α → Prop where
  | stay {v' : α} (h : v' = v) : Hears c v c v' none
  | gone (a : α) (hfed : c.fed = true) (h : c.listened = false) : Hears c v c v (some a)
  | send (a : α) (hfed : c.fed = true) : Hears c v { c with waiting := some a } v (some a)
  | receive (a : α) (h : c.waiting = some a) : Hears c v { c with waiting := none } a none
  | finish : Hears c v c.finish v none

/-- The election that an action sends. -/
def Action.elected? : Action → Option (Option Nat)
  | elect next => some next
  | toggle _ | closeElections | closeTraffic | takeElection | takeTraffic | stepRunner _ | connect _
  | atBackend .. | requestShutdown | stop => none

/-- The decision of the traffic switch that an action sends. -/
def Action.toggled? : Action → Option Bool
  | toggle enabled => some enabled
  | elect _ | closeElections | closeTraffic | takeElection | takeTraffic | stepRunner _ | connect _
  | atBackend .. | requestShutdown | stop => none

section Hears

variable {α : Type} {c c' : Channel α} {v v' : α} {sent : Option α}

/-- What is sent last is what will be in force. -/
theorem Hears.coming (h : Hears c v c' v' sent) (hlistened : c.listened = true) :
    c'.listened = true ∧ c'.waiting.getD v' = sent.getD (c.waiting.getD v) := by
  cases h with
  | stay hv => exact ⟨hlistened, by rw [hv]; rfl⟩
  | gone a hfed hgone => cases hgone.symm.trans hlistened
  | send a hfed => exact ⟨hlistened, rfl⟩
  | receive _ hwaiting => exact ⟨hlistened, by rw [hwaiting]; rfl⟩
  | finish => exact ⟨hlistened, rfl⟩

/-- When the sender is gone and nothing waits, what is in force stays so. -/
theorem Hears.ended (h : Hears c v c' v' sent) (hended : c.receive = .ended) :
    c'.receive = .ended ∧ v' = v := by
  obtain ⟨hfed, hempty⟩ := Channel.receive_ended_iff.mp hended
  cases h with
  | stay hv => exact ⟨hended, hv⟩
  | gone a hthere | send a hthere => cases hfed.symm.trans hthere
  | receive _ hwaiting => cases hempty.symm.trans hwaiting
  | finish => exact ⟨Channel.receive_ended_iff.mpr ⟨rfl, hempty⟩, rfl⟩

end Hears

theorem send_hears {α : Type} {c c' : Channel α} {a : α} (v : α) (h : sendTo c a = some c') :
    Hears c v c' v (some a) := by
  unfold sendTo at h
  split at h
  · rename_i hfed
    rcases c.send_cases a with ⟨hgone, hsend⟩ | ⟨-, -, hsend⟩ | ⟨-, -, hsend⟩
    · simp only [hsend] at h
      obtain rfl := Option.some.inj h
      exact .gone a hfed hgone
    · simp [hsend] at h
    · simp only [hsend] at h
      obtain rfl := Option.some.inj h
      exact .send a hfed
  · cases h

/-- What a step leaves of the runner and its channels, unless the runner shuts down. -/
structure Goes (s : Serving) (action : Action) (s' : Serving) : Prop where
  phase : s'.runner.phase = s.runner.phase
  delay : s'.runner.shutdownDelay = s.runner.shutdownDelay
  elections :
    Hears s.elections s.runner.nextActive s'.elections s'.runner.nextActive action.elected?
  traffic : Hears s.traffic s.runner.nextTraffic s'.traffic s'.runner.nextTraffic action.toggled?

theorem step_goes (hshutdown : action.isShutdown = false) (h : s.step now action = some s') :
    s.Goes action s' := by
  cases action with
  | elect next =>
      obtain ⟨elections, hsend, rfl⟩ := Option.map_eq_some_iff.mp h
      exact ⟨rfl, rfl, send_hears _ hsend, .stay rfl⟩
  | toggle enabled =>
      obtain ⟨traffic, hsend, rfl⟩ := Option.map_eq_some_iff.mp h
      exact ⟨rfl, rfl, .stay rfl, send_hears _ hsend⟩
  | closeElections =>
      obtain rfl := Option.some.inj h
      exact ⟨rfl, rfl, .finish, .stay rfl⟩
  | closeTraffic =>
      obtain rfl := Option.some.inj h
      exact ⟨rfl, rfl, .stay rfl, .finish⟩
  | takeElection =>
      simp only [step] at h
      split at h
      · rename_i hready
        split at h
        · rename_i next elections hreceive
          obtain rfl := Option.some.inj h
          obtain ⟨hwaiting, rfl⟩ := Channel.receive_value hreceive
          obtain ⟨hactive, htraffic⟩ :=
            Runner.begin_election_next (Runner.task_of_ready hready) s.backends next
          exact ⟨s.runner.begin_change_phase .., s.runner.begin_change_delay ..,
            .receive _ (hwaiting.trans (congrArg some hactive.symm)), .stay htraffic⟩
        · cases h
        · cases h
      · cases h
  | takeTraffic =>
      simp only [step] at h
      split at h
      · rename_i hready
        split at h
        · rename_i enabled traffic hreceive
          obtain rfl := Option.some.inj h
          obtain ⟨hwaiting, rfl⟩ := Channel.receive_value hreceive
          obtain ⟨hactive, htraffic⟩ :=
            Runner.begin_traffic_next (Runner.task_of_ready hready) s.backends enabled
          exact ⟨s.runner.begin_change_phase .., s.runner.begin_change_delay .., .stay hactive,
            .receive _ (hwaiting.trans (congrArg some htraffic.symm))⟩
        · cases h
        · cases h
      · cases h
  | stepRunner pick =>
      obtain ⟨⟨runner, backends, effects⟩, hstep, rfl⟩ := Option.map_eq_some_iff.mp h
      obtain ⟨hactive, htraffic⟩ := Runner.step_change_next hstep
      exact ⟨Runner.step_change_phase hstep, Runner.step_change_delay hstep, .stay hactive,
        .stay htraffic⟩
  | connect client =>
      simp only [step] at h
      split at h
      · obtain rfl := Option.some.inj h
        exact ⟨rfl, rfl, .stay rfl, .stay rfl⟩
      · cases h
  | atBackend place action =>
      simp only [step] at h
      split at h
      · obtain ⟨_, -, rfl⟩ := Option.map_eq_some_iff.mp h
        exact ⟨rfl, rfl, .stay rfl, .stay rfl⟩
      · cases h
  | requestShutdown | stop => cases hshutdown

/-- The last value of those that some actions send. -/
theorem last_filterMap_cons {α β : Type} (f : α → Option β) (a : α) (l : List α) (v : β) :
    ((a :: l).filterMap f).getLastD v = (l.filterMap f).getLastD ((f a).getD v) := by
  cases h : f a with
  | none => rw [List.filterMap_cons_none h, Option.getD_none]
  | some b => rw [List.filterMap_cons_some h, List.getLastD_cons, Option.getD_some]

/-- What was sent last is what will be in force. -/
theorem run_coming {actions : List (Moment × Action)}
    (hshutdown : ∀ x ∈ actions, x.2.isShutdown = false) (h : s.run actions = some s')
    (helections : s.elections.listened = true) (htraffic : s.traffic.listened = true) :
    s'.elections.waiting.getD s'.runner.nextActive =
      (actions.filterMap (·.2.elected?)).getLastD (s.elections.waiting.getD s.runner.nextActive) ∧
    s'.traffic.waiting.getD s'.runner.nextTraffic =
      (actions.filterMap (·.2.toggled?)).getLastD
        (s.traffic.waiting.getD s.runner.nextTraffic) := by
  induction actions generalizing s with
  | nil =>
      obtain rfl := Option.some.inj h
      exact ⟨rfl, rfl⟩
  | cons first rest ih =>
      obtain ⟨u, hstep, hrest⟩ := Option.bind_eq_some_iff.mp h
      obtain ⟨hfirst, hothers⟩ := List.forall_mem_cons.mp hshutdown
      have hgoes := step_goes hfirst hstep
      obtain ⟨helections', hactive⟩ := hgoes.elections.coming helections
      obtain ⟨htraffic', henabled⟩ := hgoes.traffic.coming htraffic
      obtain ⟨hlast, hlast'⟩ := ih hothers hrest helections' htraffic'
      rw [hlast, hlast', hactive, henabled, last_filterMap_cons, last_filterMap_cons]
      exact ⟨rfl, rfl⟩

theorem running_of_phase {r r' : Runner} (h : r'.phase = r.phase) : r'.isRunning = r.isRunning := by
  rw [Runner.isRunning, Runner.isRunning, h]

/-- A runner that has been told to shut down goes through the runs that it would have gone through
otherwise. -/
theorem run_undrained {actions : List (Moment × Action)} (hrunning : s.runner.isRunning = true)
    (hshutdown : ∀ x ∈ actions, x.2.isShutdown = false) :
    s.undrained.run actions = (s.run actions).map undrained := by
  induction actions generalizing s with
  | nil => rfl
  | cons first rest ih =>
      obtain ⟨now, action⟩ := first
      obtain ⟨hfirst, hothers⟩ := List.forall_mem_cons.mp hshutdown
      simp only [run, step_undrained hrunning hfirst]
      cases hstep : s.step now action with
      | none => rfl
      | some u =>
          have hphase := (step_goes hfirst hstep).phase
          exact ih ((running_of_phase hphase).trans hrunning) hothers

/-- A runner that leaves drops what waits and hears nothing more. -/
theorem leave_cases (s : Serving) :
    (s.leave = s ∧ s.runner.isRunning = true) ∨
    (s.leave = { s with elections := s.elections.leave, traffic := s.traffic.leave } ∧
      s.runner.isRunning = false) := by
  cases h : s.runner.isRunning <;> simp [leave, h]

/-- A runner that leaves takes nothing more in. -/
theorem leave_ended (s : Serving) {r : Runner} (h : s.runner.Agrees r) :
    (s.elections.receive = .ended → (leave { s with runner := r }).elections.receive = .ended ∧
      (leave { s with runner := r }).runner.nextActive = s.runner.nextActive) ∧
    (s.traffic.receive = .ended → (leave { s with runner := r }).traffic.receive = .ended ∧
      (leave { s with runner := r }).runner.nextTraffic = s.runner.nextTraffic) := by
  rw [leave_runner, h.next.1, h.next.2]
  rcases leave_cases { s with runner := r } with ⟨heq, -⟩ | ⟨heq, -⟩
  · rw [heq]
    exact ⟨fun hended => ⟨hended, rfl⟩, fun hended => ⟨hended, rfl⟩⟩
  · rw [heq]
    exact ⟨fun hended => ⟨Channel.leave_ended hended, rfl⟩,
      fun hended => ⟨Channel.leave_ended hended, rfl⟩⟩

end Serving

end GaleraProxy
