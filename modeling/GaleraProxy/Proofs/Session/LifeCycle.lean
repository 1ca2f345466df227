import GaleraProxy.Proofs.Session.Settling
import GaleraProxy.Proofs.Session.Streams

/-!
# The life of a bridge

A settled bridge stands in exactly one of three ways: it is fresh, or the one call of `connect` that
took the connections is running, or it is closed and its far ends are cut off. `Bridging.life_cycle`
says how what was called and how copying ended decide between these, which changes there are, and
that every bridge settles.
-/

namespace GaleraProxy

/-! ## Connections that have been let go of -/

/-- The far end of the connection comes to the end of its input after the bytes that have been
delivered, and nothing that it writes goes anywhere. -/
structure Duplex.IsCutOff (d : Duplex) : Prop where
  reads : ∀ n, d.toFar.bytes.length ≤ n →
    (d.farReadSome n).1 = d.toFar.bytes ∧ (d.farReadSome n).2.toFar.atEnd = true
  writes : ∀ bytes, d.written bytes = [] ∧ d.afterFar (.write bytes) = d

theorem Duplex.IsDropped.cut_off {d : Duplex} (h : d.IsDropped) : d.IsCutOff where
  reads n hn := by
    refine ⟨List.take_of_length_le hn, ?_⟩
    simp [farReadSome, Pipe.take, Pipe.atEnd, h.2, hn]
  writes bytes := by
    rcases d.write_cases bytes with ⟨hopen, -⟩ | ⟨-, heq, hwritten⟩
    · cases hopen.symm.trans h.1
    · exact ⟨hwritten, heq⟩

namespace Bridge

/-- Closing twice is closing once. -/
theorem close_close (b : Bridge) : b.close.close = b.close := by
  cases h : b.phase <;> simp [close, release, h]

/-- Neither step of `close` does anything to a bridge that is closed. -/
theorem close_steps_of_released {b : Bridge} (h : b.phase = .released) (hclosed : b.closed = true) :
    b.flag = b ∧ b.letGo = b := by
  refine ⟨?_, by simp [letGo, h]⟩
  rw [flag, ← hclosed]

end Bridge

namespace Bridging

/-! ## How a bridge stands -/

/-- The `i`th call of `connect` has taken the connections and has not returned. -/
def Runs (s : Bridging) (i : Nat) : Prop := ∃ n, s.Arrived i n ∧ s.bridge.isRunning n = true

/-- How a settled bridge stands. -/
inductive Standing where
  | fresh
  | running
  | closed
  deriving DecidableEq, Repr

/-- The changes of how a bridge stands. -/
inductive Standing.Change : Standing → Standing → Prop where
  | start : Change .fresh .running
  | discard : Change .fresh .closed
  | finish : Change .running .closed

/-- What it says that a bridge stands so. -/
def Stands (s : Bridging) : Standing → Prop
  | .fresh => s.bridge.phase = .fresh ∧ s.bridge.closed = false ∧ ∀ i, ¬ s.Runs i
  | .running => s.bridge.IsPumping ∧ s.bridge.closed = false ∧ ∃ i, s.Runs i ∧ ∀ j, s.Runs j → j = i
  | .closed => s.bridge.phase = .released ∧ s.bridge.closed = true ∧ (∀ i, ¬ s.Runs i) ∧
      ∀ side, (s.bridge.connection side).IsCutOff

variable {s t : Bridging} {seen signs : List Sign}

/-! ## Settled bridges -/

theorem Runs.running {i : Nat} (h : s.Runs i) : ∃ n, s.bridge.stage = .running n := by
  obtain ⟨n, -, hrunning⟩ := h
  exact ⟨n, Bridge.stage_eq_running.mpr hrunning⟩

theorem not_runs_of_not_pumping (h : ¬ s.bridge.IsPumping) (i : Nat) : ¬ s.Runs i :=
  fun hruns => h (Bridge.pumping_iff.mpr hruns.running)

/-- A settled bridge holds its connections if and only if nobody has called anything. -/
theorem Orderly.fresh_iff (h : s.Orderly signs) (hsettled : s.Settled) :
    s.bridge.phase = .fresh ↔ s.connects = [] ∧ s.closes = [] := by
  constructor
  · intro hphase
    obtain ⟨hconnects, hcloses⟩ := h.fresh (Bridge.stage_eq_fresh.mpr hphase)
    constructor
    · refine List.eq_nil_iff_forall_not_mem.mpr fun connect hmem => ?_
      cases connect with
      | begun => exact hsettled.connects hmem
      | arrived n =>
          obtain ⟨i, hi⟩ := List.mem_iff_getElem?.mp hmem
          exact hconnects i n hi
    · refine List.eq_nil_iff_forall_not_mem.mpr fun close hmem => ?_
      cases close with
      | flagged => exact hsettled.closes hmem
      | returned => exact hcloses hmem
  · rintro ⟨hconnects, hcloses⟩
    have hnone (i n : Nat) : ¬ s.Arrived i n := by simp [Arrived, hconnects]
    -- copying, and an end of it, would need a call of `connect` that has come to the connections
    rcases s.bridge.phase_cases with hphase | hpumping | hphase
    · exact hphase
    · obtain ⟨n, hstage⟩ := Bridge.pumping_iff.mp hpumping
      obtain ⟨i, harrived⟩ := h.running n hstage
      exact absurd harrived (hnone i n)
    · have hclosed := h.released (Bridge.stage_eq_released.mpr hphase)
      rcases h.closed_iff.mp hclosed with hne | ⟨ending, hended⟩
      · exact absurd hcloses hne
      · obtain ⟨-, i, n, harrived⟩ := h.ended ending hended
        exact absurd harrived (hnone i n)

theorem Orderly.stands_fresh (h : s.Orderly signs) (hsettled : s.Settled)
    (hphase : s.bridge.phase = .fresh) : s.Stands .fresh := by
  refine ⟨hphase, ?_, not_runs_of_not_pumping (Bridge.not_pumping_of_fresh hphase)⟩
  refine Bool.eq_false_iff.mpr fun hclosed => ?_
  rcases h.closed_iff.mp hclosed with hne | ⟨ending, hended⟩
  · exact hne ((h.fresh_iff hsettled).mp hphase).2
  · cases (Bridge.stage_eq_fresh.mpr hphase).symm.trans (h.ended ending hended).1

theorem Orderly.stands_running (h : s.Orderly signs) (hsettled : s.Settled)
    (hpumping : s.bridge.IsPumping) : s.Stands .running := by
  refine ⟨hpumping, (Bridge.waits_of_step_eq_none hpumping hsettled.waits).1, ?_⟩
  obtain ⟨n, hstage⟩ := Bridge.pumping_iff.mp hpumping
  obtain ⟨i, harrived⟩ := h.running n hstage
  refine ⟨i, ⟨n, harrived, Bridge.stage_eq_running.mp hstage⟩, ?_⟩
  rintro j ⟨m, hj, hrunning⟩
  obtain rfl := Bridge.Stage.running.inj (hstage.symm.trans (Bridge.stage_eq_running.mpr hrunning))
  exact h.distinct j i n hj harrived

/-- A bridge that has let go is closed, also while some calls have not returned. -/
theorem Orderly.stands_closed (h : s.Orderly signs) (haccounts : s.Accounts signs)
    (hphase : s.bridge.phase = .released) : s.Stands .closed := by
  refine ⟨hphase, h.released (Bridge.stage_eq_released.mpr hphase),
    not_runs_of_not_pumping (Bridge.not_pumping_of_released hphase), fun side => ?_⟩
  have hover (side : Side) : (s.bridge.way side).IsOver :=
    (haccounts.carries side).shut (by simp [Bridge.way, Bridge.isReleased, hphase])
  refine Duplex.IsDropped.cut_off ?_
  cases side with
  | client => exact ⟨(hover .client).source, (hover .server).sink⟩
  | server => exact ⟨(hover .server).source, (hover .client).sink⟩

theorem Orderly.stands (h : s.Orderly signs) (haccounts : s.Accounts signs)
    (hsettled : s.Settled) : ∃ x, s.Stands x := by
  rcases s.bridge.phase_cases with hphase | hpumping | hphase
  · exact ⟨.fresh, h.stands_fresh hsettled hphase⟩
  · exact ⟨.running, h.stands_running hsettled hpumping⟩
  · exact ⟨.closed, h.stands_closed haccounts hphase⟩

/-- A bridge stands in one way at most. -/
theorem Stands.unique {x y : Standing} (hx : s.Stands x) (hy : s.Stands y) : x = y := by
  cases x <;> cases y
  case fresh.fresh | running.running | closed.closed => rfl
  case fresh.running => exact absurd hy.1 (Bridge.not_pumping_of_fresh hx.1)
  case fresh.closed => cases hx.1.symm.trans hy.1
  case running.fresh => exact absurd hx.1 (Bridge.not_pumping_of_fresh hy.1)
  case running.closed => exact absurd hx.1 (Bridge.not_pumping_of_released hy.1)
  case closed.fresh => cases hx.1.symm.trans hy.1
  case closed.running => exact absurd hy.1 (Bridge.not_pumping_of_released hx.1)

/-- A settled bridge is closed if and only if somebody has called `close` or copying has ended. -/
theorem Orderly.stands_closed_iff (h : s.Orderly signs) (haccounts : s.Accounts signs)
    (hsettled : s.Settled) :
    s.Stands .closed ↔ s.closes ≠ [] ∨ ∃ ending, .ended ending ∈ signs := by
  rw [← h.closed_iff]
  refine ⟨fun hclosed => hclosed.2.1, fun hclosed => ?_⟩
  obtain ⟨x, hx⟩ := h.stands haccounts hsettled
  cases x with
  | fresh => cases hclosed.symm.trans hx.2.1
  | running => cases hclosed.symm.trans hx.2.1
  | closed => exact hx

/-! ## What comes later -/

/-- Once the connections have been taken, no other call comes to copy. -/
theorem Orderly.run_runs {shown : List Sign} (hs : s.Orderly signs) (ht : t.Orderly shown)
    {more : List Action} (hrun : s.run more = some (t, seen)) (h : s.bridge.phase ≠ .fresh)
    {i : Nat} (hruns : t.Runs i) : s.Runs i := by
  obtain ⟨n, harrived, hrunning⟩ := hruns
  have hstage : s.bridge.stage = .running n := by
    rcases run_stage hrun (mt Bridge.stage_eq_fresh.mp h) with heq | heq
    · rw [← heq, Bridge.stage_eq_running.mpr hrunning]
    · cases (Bridge.stage_eq_running.mpr hrunning).symm.trans heq
  -- the call that took the connections still has its number, and no other call has it
  obtain ⟨j, hj⟩ := hs.running n hstage
  obtain rfl := ht.distinct i j n harrived (run_arrived hrun hj)
  exact ⟨n, hj, Bridge.stage_eq_running.mp hstage⟩

/-- A call of `connect` that finds the connections taken returns at once. -/
theorem Orderly.arrive_returns (h : s.Orderly signs) (hphase : s.bridge.phase ≠ .fresh) {i : Nat}
    (hstep : s.step (.arrive i) = some (t, seen)) :
    t.bridge = { s.bridge with calls := s.bridge.calls + 1 } ∧ seen = [] ∧ ¬ t.Runs i := by
  have hi : s.connects[i]? = some .begun := by
    simp only [step] at hstep
    split at hstep
    · assumption
    · cases hstep
    · cases hstep
  simp only [step, hi] at hstep
  obtain ⟨rfl, rfl⟩ := Prod.mk.inj (Option.some.inj hstep)
  refine ⟨Bridge.connect_of_not_fresh hphase, rfl, ?_⟩
  rintro ⟨n, harrived, hrunning⟩
  rcases (arrived_arrive hi _).mp harrived with ⟨-, rfl⟩ | hbefore
  · have hstage := Bridge.stage_eq_running.mpr hrunning
    rw [Bridge.connect_stage_of_not_fresh (mt Bridge.stage_eq_fresh.mp hphase)] at hstage
    obtain ⟨j, hj⟩ := h.running _ hstage
    exact absurd (h.numbered j _ hj) (Nat.lt_irrefl _)
  · cases hi.symm.trans hbefore

/-- The far ends of a closed bridge write nothing more, and read what had been delivered. -/
theorem run_closed {more : List Action} (hrun : s.run more = some (t, seen))
    (h : ∀ side, (s.bridge.way side).IsOver) (side : Side) :
    (t.bridge.way side).IsOver ∧ wroteAt side seen = [] ∧
      (s.bridge.sink side).bytes = gotAt side.other seen ++ (t.bridge.sink side).bytes := by
  have hstart : (s.bridge.way side).IsOver ∧ wroteAt side [] = [] ∧
      (s.bridge.sink side).bytes = gotAt side.other [] ++ (s.bridge.sink side).bytes :=
    ⟨h side, rfl, rfl⟩
  refine run_steps_induction (P := fun u shown => (u.bridge.way side).IsOver ∧
    wroteAt side shown = [] ∧
    (s.bridge.sink side).bytes = gotAt side.other shown ++ (u.bridge.sink side).bytes)
    (fun {u v} shown more _ hu hstep => ?_) hrun hstart
  obtain ⟨hover, hwrote, hbytes⟩ := hu
  obtain ⟨hover', hnone, hread⟩ := hover.step ((step_move hstep).way side)
  refine ⟨hover', by rw [wrote_at_append, hwrote, hnone, List.append_nil], ?_⟩
  rw [hbytes, got_at_append, List.append_assoc]
  exact congrArg _ hread

/-! ## The life cycle -/

/-- The invariants hold after whatever happens. -/
theorem Orderly.run (h : s.Orderly signs) (haccounts : s.Accounts signs) {more : List Action}
    (hrun : s.run more = some (t, seen)) :
    t.Orderly (signs ++ seen) ∧ t.Accounts (signs ++ seen) :=
  run_steps_induction (P := fun u shown => u.Orderly shown ∧ u.Accounts shown)
    (fun h hstep => ⟨h.1.move (step_move hstep), h.2.move (step_move hstep)⟩) hrun ⟨h, haccounts⟩

/-- A bridge goes from fresh to running or to closed and from running to closed. -/
theorem Stands.change {more : List Action} (hrun : s.run more = some (t, seen)) {x y : Standing}
    (hx : s.Stands x) (hy : t.Stands y) : x = y ∨ Standing.Change x y := by
  have hlater := run_stage hrun
  cases x with
  | fresh =>
      cases y with
      | fresh => exact .inl rfl
      | running => exact .inr .start
      | closed => exact .inr .discard
  | running =>
      obtain ⟨n, hstage⟩ := Bridge.pumping_iff.mp hx.1
      cases y with
      | fresh =>
          rw [hstage, Bridge.stage_eq_fresh.mpr hy.1] at hlater
          rcases hlater nofun with heq | heq <;> cases heq
      | running => exact .inl rfl
      | closed => exact .inr .finish
  | closed =>
      have hstage := Bridge.stage_eq_released.mpr hx.1
      have hreleased : t.bridge.stage = .released := by
        rw [hstage] at hlater
        exact (hlater nofun).elim id id
      cases y with
      | fresh => cases (Bridge.stage_eq_fresh.mpr hy.1).symm.trans hreleased
      | running =>
          exact absurd hy.1 (Bridge.not_pumping_of_released (Bridge.stage_eq_released.mp hreleased))
      | closed => exact .inl rfl

/-- Once the connections have been taken, other calls of `connect` leave them as they are. -/
theorem Orderly.run_arrives (h : s.Orderly signs) (haccounts : s.Accounts signs)
    {more : List Action} (hrun : s.run more = some (t, seen)) (hphase : s.bridge.phase ≠ .fresh) :
    (∀ i, t.Runs i → s.Runs i) ∧
    ∀ i u shown, t.step (.arrive i) = some (u, shown) →
      u.bridge = { t.bridge with calls := t.bridge.calls + 1 } ∧ shown = [] ∧ ¬ u.Runs i := by
  obtain ⟨hlater, -⟩ := h.run haccounts hrun
  have hstage : s.bridge.stage ≠ .fresh := mt Bridge.stage_eq_fresh.mp hphase
  have hnot : t.bridge.stage ≠ .fresh := by
    rcases run_stage hrun hstage with heq | heq <;> rw [heq]
    · exact hstage
    · nofun
  exact ⟨fun i hruns => h.run_runs hlater hrun hphase hruns,
    fun i u shown hstep => hlater.arrive_returns (mt Bridge.stage_eq_fresh.mpr hnot) hstep⟩

/-- A closed bridge stays closed. -/
theorem Orderly.run_stands_closed (h : s.Orderly signs) (haccounts : s.Accounts signs)
    {more : List Action} (hrun : s.run more = some (t, seen)) (hclosed : s.Stands .closed) :
    t.Stands .closed ∧ ∀ side, wroteAt side seen = [] ∧
      (s.bridge.connection side).toFar.bytes =
        gotAt side seen ++ (t.bridge.connection side).toFar.bytes := by
  obtain ⟨hlater, hkept⟩ := h.run haccounts hrun
  have hstage := Bridge.stage_eq_released.mpr hclosed.1
  have hreleased : t.bridge.stage = .released := by
    rcases run_stage hrun (by simp [hstage]) with heq | heq
    · rw [heq, hstage]
    · exact heq
  have hover (side : Side) : (s.bridge.way side).IsOver :=
    (haccounts.carries side).shut (by simp [Bridge.way, Bridge.isReleased, hclosed.1])
  refine ⟨hlater.stands_closed hkept (Bridge.stage_eq_released.mp hreleased), fun side => ?_⟩
  refine ⟨(run_closed hrun hover side).2.1, ?_⟩
  cases side with
  | client => exact (run_closed hrun hover .server).2.2
  | server => exact (run_closed hrun hover .client).2.2

/-- For every run of a bridge between two connections, with any number of calls. If the bridge has
settled, it is in exactly one standing: it is fresh if and only if nobody has called anything, and
closed if and only if somebody has called `close` or copying has ended; while it is running, both
directions wait. A bridge that has not settled can go on by itself, and only for as many steps as
there is work.

Whatever comes after, the standing is the same or has changed from fresh to running or to closed, or
from running to closed. Once the connections have been taken, no other call of `connect` copies: it
returns at once and leaves the connections as they are. A closed bridge stays closed, and its far
ends only read what had been delivered. `close` does nothing to a closed bridge, also not in two
steps. -/
theorem life_cycle (clientIn clientOut serverIn serverOut : Nat) (actions : List Action)
    {s : Bridging} {signs : List Sign}
    (hrun : (start (.between clientIn clientOut) (.between serverIn serverOut)).run actions =
      some (s, signs)) :
    (s.Settled →
      (∃ x, s.Stands x ∧ ∀ y, s.Stands y → y = x) ∧
      (s.Stands .fresh ↔ s.connects = [] ∧ s.closes = []) ∧
      (s.Stands .closed ↔ s.closes ≠ [] ∨ ∃ ending, .ended ending ∈ signs) ∧
      (s.Stands .running → ∀ side, s.bridge.Waits side)) ∧
    (s.Settled ∨ ∃ action : Action, action.isOwn = true ∧ (s.step action).isSome = true) ∧
    (s.bridge.close.close = s.bridge.close ∧
      (s.Stands .closed → s.bridge.flag = s.bridge ∧ s.bridge.letGo = s.bridge)) ∧
    ∀ more t seen, s.run more = some (t, seen) →
      ((∀ action ∈ more, action.isOwn = true) → more.length ≤ s.work) ∧
      (∀ x y, s.Stands x → t.Stands y → x = y ∨ Standing.Change x y) ∧
      (s.bridge.phase ≠ .fresh → (∀ i, t.Runs i → s.Runs i) ∧
        ∀ i u shown, t.step (.arrive i) = some (u, shown) →
          u.bridge = { t.bridge with calls := t.bridge.calls + 1 } ∧ shown = [] ∧ ¬ u.Runs i) ∧
      (s.Stands .closed → t.Stands .closed ∧ ∀ side, wroteAt side seen = [] ∧
        (s.bridge.connection side).toFar.bytes =
          gotAt side seen ++ (t.bridge.connection side).toFar.bytes) := by
  obtain ⟨horderly, haccounts⟩ := (start_orderly _ _).run
    (start_accounts clientIn clientOut serverIn serverOut) hrun
  refine ⟨fun hsettled => ⟨?_, ?_, ?_, ?_⟩, s.settled_or_goes_on, ⟨s.bridge.close_close, ?_⟩, ?_⟩
  · obtain ⟨x, hx⟩ := horderly.stands haccounts hsettled
    exact ⟨x, hx, fun y hy => hy.unique hx⟩
  · rw [← horderly.fresh_iff hsettled]
    exact ⟨fun hfresh => hfresh.1, horderly.stands_fresh hsettled⟩
  · exact horderly.stands_closed_iff haccounts hsettled
  · exact fun hrunning => (Bridge.waits_of_step_eq_none hrunning.1 hsettled.waits).2
  · exact fun hclosed => Bridge.close_steps_of_released hclosed.1 hclosed.2.1
  · intro more t seen hmore
    exact ⟨fun hown => length_le_work hown hmore, fun x y hx hy => hx.change hmore hy,
      horderly.run_arrives haccounts hmore, horderly.run_stands_closed haccounts hmore⟩

/-- Two calls of `connect` overlap with one of `close`: the second comes to the connections after
the flag has been set, and copies before it notices. -/
def overlappingCalls : List Action :=
  [.beginConnect, .beginConnect, .beginClose, .arrive 1, .write .client [1, 2], .copy .client,
    .copy .client, .arrive 0, .finishClose 0, .noticeClose]

/-- The bridge is called and used again. -/
def lateCalls : List Action :=
  [.beginConnect, .write .client [3], .arrive 2, .beginClose, .read .server 4, .finishClose 1]

/-- The close is not lost, and the server reads what had been delivered before. -/
theorem life_cycle_of_overlapping_calls : ∃ s t signs seen,
    (start (.between 8 8) (.between 8 8)).run overlappingCalls = some (s, signs) ∧
    s.run lateCalls = some (t, seen) ∧ s.Settled ∧ s.Stands .closed ∧ t.Stands .closed ∧
    (∀ i, ¬ t.Runs i) ∧ wroteAt .client seen = [] ∧ gotAt .server seen = [1, 2] := by
  have hend : ((start (.between 8 8) (.between 8 8)).run overlappingCalls).any (fun (s, _) =>
      .begun ∉ s.connects ∧ .flagged ∉ s.closes ∧ s.bridge.step = none ∧ s.closes ≠ [] ∧
      (s.bridge.connection .server).toFar.bytes = [1, 2] ∧
      (s.run lateCalls).any fun (t, _) => (t.bridge.connection .server).toFar.bytes = []) =
      true := by
    decide +kernel
  obtain ⟨⟨s, signs⟩, hrun, hlast⟩ := (Option.any_eq_true _ _).mp hend
  obtain ⟨hconnects, hcloses, hwaits, hcalled, hdelivered, hlate⟩ := of_decide_eq_true hlast
  obtain ⟨⟨t, seen⟩, hmore, hread⟩ := (Option.any_eq_true _ _).mp hlate
  have hsettled : s.Settled := ⟨hconnects, hcloses, hwaits⟩
  obtain ⟨hstands, -, -, hlater⟩ := life_cycle 8 8 8 8 overlappingCalls hrun
  have hclosed : s.Stands .closed := (hstands hsettled).2.2.1.mpr (.inl hcalled)
  obtain ⟨-, -, hruns, hfar⟩ := hlater lateCalls t seen hmore
  obtain ⟨hstill, hends⟩ := hfar hclosed
  have hgot := (hends .server).2
  rw [hdelivered, of_decide_eq_true hread, List.append_nil] at hgot
  have hnot : s.bridge.phase ≠ .fresh := by
    rw [hclosed.1]
    nofun
  exact ⟨s, t, signs, seen, hrun, hmore, hsettled, hclosed, hstill,
    fun i hi => hclosed.2.2.1 i ((hruns hnot).1 i hi), (hends .client).1, hgot.symm⟩

end Bridging

end GaleraProxy
