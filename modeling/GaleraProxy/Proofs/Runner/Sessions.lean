import GaleraProxy.Proofs.Runner.Answering
import GaleraProxy.Runner.Serving

/-!
# Sessions are at the active backend

A runner by itself may take elections and decisions of the traffic switch while clients are on their
way, and their dials may end at any later time. `settled_sessions_at_active` says where sessions are
once everything has come to a stop, and what becomes of a client whose backend was replaced or whose
traffic was disabled during its dial.
-/

namespace GaleraProxy.Serving

variable {s : Serving}

/-- Neither the runner nor a call can take a step by itself. -/
def Settled (s : Serving) : Prop :=
  s.runner.task = .idle ∧ ∀ b ∈ s.backends, ∀ i < b.calls.length, b.stepCall i = none

instance (s : Serving) : Decidable s.Settled :=
  inferInstanceAs (Decidable (_ ∧ _))

/-- A call of a settled state waits. -/
theorem Settled.waits (h : s.Settled) {j i : Nat} {b : Backend} {c : Call}
    (hb : s.backends[j]? = some b) (hc : b.calls[i]? = some c) : b.stepCall i = none :=
  h.2 b (List.mem_of_getElem? hb) i (List.getElem?_eq_some_iff.mp hc).1

/-- The runner answers for all calls and attends to all severs. -/
structure Sound (s : Serving) : Prop where
  consistent : Backend.AllConsistent s.backends
  answers : s.runner.Answers s.backends fun _ _ => True
  attended : Runner.Attended (fun j k => s.runner.Attends j k ∨ False) s.backends

/-- A runner that starts has neither calls nor severs. -/
theorem start_sound (delay : Duration) (configs : List BackendConfig) :
    (start delay configs).Sound where
  consistent := Backend.all_consistent_of_config configs
  answers := fun j i b c hb hc _ => by
    obtain ⟨config, -, rfl⟩ := Option.map_eq_some_iff.mp ((List.getElem?_map ..).symm.trans hb)
    cases hc
  attended := fun j k b sever hb hsever => by
    obtain ⟨config, -, rfl⟩ := Option.map_eq_some_iff.mp ((List.getElem?_map ..).symm.trans hb)
    cases hsever

theorem leave_runner (s : Serving) : s.leave.runner = s.runner := by
  unfold leave
  split <;> rfl

theorem leave_backends (s : Serving) : s.leave.backends = s.backends := by
  unfold leave
  split <;> rfl

/-- Every step is a move of the runner and its backends. -/
theorem step_move {s' : Serving} {now : Moment} {action : Action}
    (h : s.step now action = some s') :
    s.runner.Move s.backends s'.runner s'.backends := by
  have hsame : s.runner.Agrees s.runner := ⟨rfl, rfl, rfl⟩
  cases action with
  | elect next =>
      obtain ⟨elections, -, rfl⟩ := Option.map_eq_some_iff.mp h
      exact .stay _ hsame
  | toggle enabled =>
      obtain ⟨traffic, -, rfl⟩ := Option.map_eq_some_iff.mp h
      exact .stay _ hsame
  | closeElections =>
      obtain rfl := Option.some.inj h
      exact .stay _ hsame
  | closeTraffic =>
      obtain rfl := Option.some.inj h
      exact .stay _ hsame
  | takeElection =>
      simp only [step] at h
      split at h
      · rename_i hready
        split at h
        · obtain rfl := Option.some.inj h
          exact .begin _ hready
        · cases h
        · cases h
      · cases h
  | takeTraffic =>
      simp only [step] at h
      split at h
      · rename_i hready
        split at h
        · obtain rfl := Option.some.inj h
          exact .begin _ hready
        · cases h
        · cases h
      · cases h
  | stepRunner pick =>
      obtain ⟨⟨runner, backends, effects⟩, hstep, rfl⟩ := Option.map_eq_some_iff.mp h
      exact .go hstep
  | connect client =>
      simp only [step] at h
      split at h
      · obtain rfl := Option.some.inj h
        exact .accept client ‹_›
      · cases h
  | atBackend place action =>
      simp only [step] at h
      split at h
      · rename_i hown
        obtain ⟨⟨b', effects⟩, hstep, rfl⟩ := Option.map_eq_some_iff.mp h
        obtain ⟨b, hb, hstep⟩ := Option.bind_eq_some_iff.mp hstep
        exact .aside (.set hb hown hstep)
      · cases h
  | requestShutdown =>
      simp only [step] at h
      split at h
      · obtain rfl := Option.some.inj h
        rw [leave_runner, leave_backends]
        exact .stay _ (s.runner.request_shutdown_agrees now)
      · cases h
  | stop =>
      simp only [step] at h
      split at h
      · obtain rfl := Option.some.inj h
        rw [leave_runner, leave_backends]
        exact .stay _ (s.runner.tick_agrees now)
      · cases h

theorem Sound.step (h : s.Sound) {s' : Serving} {now : Moment} {action : Action}
    (hstep : s.step now action = some s') : s'.Sound where
  consistent := h.consistent.onward (step_move hstep).onward
  answers := h.answers.move (step_move hstep)
  attended := h.attended.move (step_move hstep)

/-- What every step keeps, a run keeps. -/
theorem run_induction {P : Serving → Prop}
    (hstep : ∀ {s s' : Serving} {now : Moment} {action : Action}, P s →
      s.step now action = some s' → P s')
    {actions : List (Moment × Action)} {s last : Serving} (hrun : s.run actions = some last)
    (h : P s) : P last := by
  induction actions generalizing s with
  | nil => exact Option.some.inj hrun ▸ h
  | cons head rest ih =>
      obtain ⟨next, hnext, hrest⟩ := Option.bind_eq_some_iff.mp hrun
      exact ih hrest (hstep h hnext)

/-! ## Settled states -/

/-- In a settled state every sever has returned. -/
theorem Sound.severs_returned (h : s.Sound) (hsettled : s.Settled) {j k : Nat} {b : Backend}
    {sever : Sever} (hb : s.backends[j]? = some b) (hsever : b.severs[k]? = some sever) :
    sever = .returned := by
  rcases h.attended hb hsever with hreturned | hattends | hnone
  · exact hreturned
  · exact absurd hattends (Runner.not_attends_of_idle hsettled.1)
  · exact hnone.elim

/-- In a settled state a bridge that is open is one of the backend that the runner serves. -/
theorem Sound.serves_of_open (h : s.Sound) (hsettled : s.Settled) {j i : Nat} {b : Backend}
    {c : Call} {id : BridgeId} {bridge : Bridge} {point : Call.Point}
    (hb : s.backends[j]? = some b) (hc : b.calls[i]? = some c)
    (hstage : c.stage = .bridged id bridge point) (hopen : bridge.closed = false) :
    s.runner.Serves j :=
  h.answers.serves_of_open (h.consistent hb) hb
    (fun hsever => h.severs_returned hsettled hb hsever) hc trivial (hsettled.waits hb hc) hstage
    hopen

/-- In a settled state a registered bridge is one of the backend that the runner serves. -/
theorem Sound.serves_of_registered (h : s.Sound) (hsettled : s.Settled) {j : Nat} {b : Backend}
    {id : BridgeId} (hb : s.backends[j]? = some b) (hid : id ∈ b.registry.members) :
    s.runner.Serves j := by
  obtain ⟨i, c, bridge, point, hc, hstage, hopen⟩ :=
    (h.consistent hb).open_of_registered hid fun hc => hsettled.waits hb hc
  exact h.serves_of_open hsettled hb hc hstage hopen

/-- A client that is dialing at a backend that the runner does not serve comes too late. -/
theorem Sound.barred_of_dialing (h : s.Sound) {j i : Nat} {b : Backend} {c : Call}
    {client : Duplex} (hb : s.backends[j]? = some b) (hc : b.calls[i]? = some c)
    (hstage : c.stage = .dialing client) (hleft : ¬ s.runner.Serves j) :
    Backend.BarredAt s.backends j i := by
  obtain ⟨hle, hserves⟩ := h.answers hb hc trivial
  refine ⟨b, hb, c, hc, Nat.lt_of_le_of_ne hle fun heq => hleft (hserves heq), ?_⟩
  rw [hstage]
  trivial

/-- For every run of a runner whose backends nobody else uses. First, in a settled state every
registered session and every open bridge is at the active backend, and traffic is enabled; without
an active backend or with traffic disabled there is no session at all. Second, a client that is
dialing at a backend that the runner does not serve is never admitted, whatever the runner takes in
afterwards: once everything has come to a stop, its dial is still on its way, or its connection has
been closed. -/
theorem settled_sessions_at_active (delay : Duration) (configs : List BackendConfig)
    (before after : List (Moment × Action)) {earlier s : Serving}
    (hbefore : (start delay configs).run before = some earlier)
    (hafter : earlier.run after = some s) :
    (s.Settled →
      (∀ (j : Nat) (b : Backend), s.backends[j]? = some b →
        (∀ id ∈ b.registry.members,
          s.runner.active = some j ∧ s.runner.trafficEnabled = true) ∧
        ∀ (i : Nat) (c : Call) (id : BridgeId) (bridge : Bridge) (point : Call.Point),
          b.calls[i]? = some c → c.stage = .bridged id bridge point → bridge.closed = false →
          s.runner.active = some j ∧ s.runner.trafficEnabled = true) ∧
      (s.runner.active = none ∨ s.runner.trafficEnabled = false →
        ∀ b ∈ s.backends, b.sessions = 0)) ∧
    ∀ (j i : Nat) (b : Backend) (c : Call) (client : Duplex), earlier.backends[j]? = some b →
      b.calls[i]? = some c → c.stage = .dialing client → ¬ earlier.runner.Serves j →
      ∃ b' c', s.backends[j]? = some b' ∧ b'.calls[i]? = some c' ∧ c'.stage.IsBarred ∧
        (s.Settled → (∃ client, c'.stage = .dialing client) ∨
          (∃ client error, c'.stage = .failed client error ∧ client.IsDropped) ∨
          ∃ id bridge, c'.stage = .bridged id bridge .returned ∧ bridge.closed = true ∧
            bridge.client.IsDropped) := by
  have hearlier : earlier.Sound :=
    run_induction (fun h hstep => h.step hstep) hbefore (start_sound delay configs)
  have h : s.Sound := run_induction (fun h hstep => h.step hstep) hafter hearlier
  refine ⟨fun hsettled => ⟨fun j b hb => ⟨fun id hid => ?_, ?_⟩, ?_⟩, ?_⟩
  · exact (h.serves_of_registered hsettled hb hid).2
  · intro i c id bridge point hc hstage hopen
    exact (h.serves_of_open hsettled hb hc hstage hopen).2
  · intro hnone b hmem
    obtain ⟨j, hb⟩ := List.getElem?_of_mem hmem
    refine List.length_eq_zero_iff.mpr (List.eq_nil_iff_forall_not_mem.mpr fun id hid => ?_)
    obtain ⟨-, hactive, htraffic⟩ := h.serves_of_registered hsettled hb hid
    rcases hnone with hnone | hdisabled
    · cases hnone.symm.trans hactive
    · cases hdisabled.symm.trans htraffic
  · intro j i b c client hb hc hstage hleft
    obtain ⟨b', hb', hbarred⟩ : Backend.BarredAt s.backends j i :=
      run_induction (P := fun s => Backend.BarredAt s.backends j i)
        (fun h hstep => h.onward (step_move hstep).onward) hafter
        (hearlier.barred_of_dialing hb hc hstage hleft)
    obtain ⟨c', hc', -, hstage'⟩ := id hbarred
    refine ⟨b', c', hb', hc', hstage', fun hsettled => ?_⟩
    obtain ⟨d, hd, hcases⟩ := hbarred.waiting_cases (h.consistent hb') (hsettled.waits hb' hc')
    obtain rfl := Option.some.inj (hd.symm.trans hc')
    exact hcases

/-- Two backends. -/
def twoNodes : List BackendConfig :=
  [⟨"a", "10.0.0.1", 3306, 9201, "status"⟩, ⟨"b", "10.0.0.2", 3306, 9201, "status"⟩]

/-- The first backend is replaced during the dial of a client. -/
def replacing : List (Moment × Action) :=
  [(0, .elect (some 0)), (0, .takeElection), (0, .connect (.empty 8)), (0, .elect (some 1)),
   (0, .takeElection)]

/-- The first backend is elected again, another client connects, and both dials end. -/
def electingAgain : List (Moment × Action) :=
  [(1, .stepRunner 0), (1, .stepRunner 0), (1, .stepRunner 0), (1, .elect (some 0)),
   (1, .takeElection), (1, .stepRunner 0), (1, .stepRunner 0), (1, .stepRunner 0),
   (2, .connect (.empty 8)), (3, .atBackend 0 (.endDial 0 (.ok (.empty 8)))),
   (3, .atBackend 0 (.endDial 1 (.ok (.empty 8)))), (4, .atBackend 0 (.stepCall 0)),
   (4, .atBackend 0 (.stepCall 0)), (4, .atBackend 0 (.stepCall 0)),
   (4, .atBackend 0 (.stepCall 0)), (4, .atBackend 0 (.stepCall 1)),
   (4, .atBackend 0 (.stepCall 1)), (4, .atBackend 0 (.stepCall 1))]

/-- The client of the first dial is never admitted, and the other one is at the active backend. -/
theorem settled_sessions_at_active_of_late_client :
    ∃ earlier s : Serving, (start .zero twoNodes).run replacing = some earlier ∧
      earlier.run electingAgain = some s ∧ s.Settled ∧ ¬ earlier.runner.Serves 0 ∧
      (∃ b, s.backends[0]? = some b ∧ 1 ∈ b.registry.members ∧ s.runner.active = some 0) ∧
      ∃ b c, s.backends[0]? = some b ∧ b.calls[0]? = some c ∧ c.stage.IsBarred := by
  have hfirst : ((start .zero twoNodes).run replacing).any (fun e =>
      e.runner.task = .severing 0 0 (.election (some 1)) ∧
      (e.backends[0]?.bind fun b => b.calls[0]?) = some ⟨0, .dialing (.empty 8)⟩ ∧
      (e.run electingAgain).any (fun s =>
        s.Settled ∧ s.backends[0]?.any fun b => b.registry.contains 1)) = true := by
    decide +kernel
  obtain ⟨earlier, hbefore, hfirst⟩ := (Option.any_eq_true _ _).mp hfirst
  obtain ⟨htask, hdialing, hsecond⟩ := of_decide_eq_true hfirst
  obtain ⟨s, hafter, hsecond⟩ := (Option.any_eq_true _ _).mp hsecond
  obtain ⟨hsettled, hregistered⟩ := of_decide_eq_true hsecond
  obtain ⟨b, hb, hid⟩ := (Option.any_eq_true _ _).mp hregistered
  obtain ⟨b₀, hb₀, hc₀⟩ := Option.bind_eq_some_iff.mp hdialing
  have hleft : ¬ earlier.runner.Serves 0 := fun hserves => nomatch htask.symm.trans hserves.1
  have hmem : 1 ∈ b.registry.members := List.contains_iff_mem.mp hid
  have h := settled_sessions_at_active .zero twoNodes replacing electingAgain hbefore hafter
  obtain ⟨b', c', hb', hc', hbarred, -⟩ := h.2 0 0 b₀ _ _ hb₀ hc₀ rfl hleft
  exact ⟨earlier, s, hbefore, hafter, hsettled, hleft,
    ⟨b, hb, hmem, (((h.1 hsettled).1 0 b hb).1 1 hmem).1⟩, b', c', hb', hc', hbarred⟩

end GaleraProxy.Serving
