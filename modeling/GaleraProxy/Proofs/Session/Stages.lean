import GaleraProxy.Proofs.Session.Turns

/-!
# Stages of a bridge at work

`Bridging.Orderly` ties the stage of a bridge and its flag to the calls of `connect` and of `close`
and to what has been seen: the connections are there until a call of `connect` or of `close` comes
to them, each call that comes has a number of its own, and the bridge is closed because somebody
called `close` or because copying has ended. Every step keeps it.
-/

namespace GaleraProxy

namespace Bridge

/-- The stages of a bridge, without what it is copying. -/
inductive Stage where
  | fresh
  | running (call : Nat)
  | released
  deriving DecidableEq, Repr

/-- The stage of a bridge. -/
def stage (b : Bridge) : Stage :=
  match b.phase with
  | .fresh => .fresh
  | .running call _ _ => .running call
  | .released => .released

variable {b next : Bridge} {side : Side} {signs : List Bridging.Sign}

theorem stage_eq_fresh : b.stage = .fresh ↔ b.phase = .fresh := by
  cases h : b.phase <;> simp [stage, h]

theorem stage_eq_released : b.stage = .released ↔ b.phase = .released := by
  cases h : b.phase <;> simp [stage, h]

theorem stage_eq_running {n : Nat} : b.stage = .running n ↔ b.isRunning n = true := by
  cases h : b.phase <;> simp [stage, isRunning, h]

theorem pumping_iff : b.IsPumping ↔ ∃ n, b.stage = .running n := by
  cases h : b.phase <;> simp [IsPumping, stage, h]

theorem connect_stage_of_fresh (h : b.stage = .fresh) : b.connect.stage = .running b.calls := by
  simp [connect, stage, stage_eq_fresh.mp h]

theorem connect_stage_of_not_fresh (h : b.stage ≠ .fresh) : b.connect.stage = b.stage := by
  rw [connect_of_not_fresh (mt stage_eq_fresh.mpr h)]
  rfl

@[simp] theorem connect_calls (b : Bridge) : b.connect.calls = b.calls + 1 := by
  unfold connect
  split <;> rfl

theorem let_go_stage (b : Bridge) :
    (b.stage = .fresh ∧ b.letGo = b.release) ∨ (b.stage ≠ .fresh ∧ b.letGo = b) := by
  cases h : b.phase <;> simp [letGo, stage, h]

/-- The bridge is at the same stage, its flag is as before, and it has been called as often. -/
structure Continues (b next : Bridge) : Prop where
  stage : next.stage = b.stage
  closed : next.closed = b.closed
  calls : next.calls = b.calls

theorem with_connection_continues (b : Bridge) (side : Side) (d : Duplex) :
    b.Continues (b.withConnection side d) := by
  cases side <;> exact ⟨rfl, rfl, rfl⟩

theorem with_copy_continues (b : Bridge) (side : Side) (source sink : Pipe) (c : Copy) :
    b.Continues (b.withCopy side source sink c) := by
  cases side <;> cases hphase : b.phase <;> constructor <;>
    simp [withCopy, withConnection, Phase.withCopy, Side.other, Bridge.stage, hphase]

/-- The bridge continues and nothing is seen of an end, or it ends and lets go. -/
theorem Turn.keeps (h : b.Turn next signs) :
    (b.Continues next ∧ ∀ ending, .ended ending ∉ signs) ∨
    (b.IsPumping ∧ next = b.release ∧ ∃ ending, signs = [.ended ending]) := by
  cases h with
  | copy | readAhead => exact .inl ⟨b.with_copy_continues .., by simp⟩
  | finish hcopy => exact .inr ⟨pumping_of_copy hcopy, rfl, _, rfl⟩
  | noticeClose hpumping => exact .inr ⟨hpumping, rfl, _, rfl⟩
  | write | read | shutdown | drop => exact .inl ⟨b.with_connection_continues .., by simp⟩

end Bridge

namespace Bridging

/-- The `i`th call of `connect` was the one with the number `n` to come to the connections. -/
def Arrived (s : Bridging) (i n : Nat) : Prop := s.connects[i]? = some (.arrived n)

variable {s t : Bridging} {seen signs : List Sign}

/-! ## What every step keeps -/

/-- The stage and the flag of the bridge fit the calls so far and what has been seen. -/
structure Orderly (s : Bridging) (signs : List Sign) : Prop where
  fresh : s.bridge.stage = .fresh → (∀ i n, ¬ s.Arrived i n) ∧ .returned ∉ s.closes
  running : ∀ n, s.bridge.stage = .running n → ∃ i, s.Arrived i n
  released : s.bridge.stage = .released → s.bridge.closed = true
  numbered : ∀ i n, s.Arrived i n → n < s.bridge.calls
  distinct : ∀ i j n, s.Arrived i n → s.Arrived j n → i = j
  closed_iff : s.bridge.closed = true ↔ s.closes ≠ [] ∨ ∃ ending, .ended ending ∈ signs
  ended : ∀ ending, .ended ending ∈ signs →
    s.bridge.stage = .released ∧ ∃ i n, s.Arrived i n

theorem start_orderly (client server : Duplex) : (start client server).Orderly [] where
  fresh _ := ⟨fun i n h => by simp [Arrived, start] at h, by simp [start]⟩
  running n h := nomatch h
  released h := nomatch h
  numbered i n h := by simp [Arrived, start] at h
  distinct i j n h := by simp [Arrived, start] at h
  closed_iff := by simp [start, Bridge.create]
  ended ending h := nomatch h

theorem arrived_begin_connect {i n : Nat} :
    Arrived { s with connects := s.connects ++ [.begun] } i n ↔ s.Arrived i n := by
  unfold Arrived
  rcases Nat.lt_trichotomy i s.connects.length with hlt | rfl | hlt
  · rw [List.getElem?_append_left hlt]
  · simp
  · rw [List.getElem?_eq_none (by simp; omega), List.getElem?_eq_none (by omega)]

theorem arrived_arrive {i : Nat} (h : s.connects[i]? = some .begun) (bridge : Bridge)
    {j m n : Nat} : Arrived { s with bridge, connects := s.connects.set i (.arrived m) } j n ↔
      (j = i ∧ n = m) ∨ s.Arrived j n := by
  obtain ⟨hlt, -⟩ := List.getElem?_eq_some_iff.mp h
  unfold Arrived
  by_cases hj : i = j
  · subst hj
    simp [List.getElem?_set_self hlt, h, eq_comm]
  · rw [List.getElem?_set_ne hj]
    simp [Ne.symm hj]

/-- A step that leaves the stage, the flag and the number of calls as they were. -/
theorem Orderly.continues (h : s.Orderly signs) {next : Bridge} (hnext : s.bridge.Continues next)
    (hseen : ∀ ending, .ended ending ∉ seen) :
    Orderly { s with bridge := next } (signs ++ seen) where
  fresh hstage := h.fresh (hnext.stage.symm.trans hstage)
  running n hstage := h.running n (hnext.stage.symm.trans hstage)
  released hstage := hnext.closed.trans (h.released (hnext.stage.symm.trans hstage))
  numbered i n harrived := by
    rw [hnext.calls]
    exact h.numbered i n harrived
  distinct := h.distinct
  closed_iff := by
    simp only [hnext.closed, h.closed_iff, List.mem_append, hseen, or_false]
  ended ending hended := by
    rcases List.mem_append.mp hended with hbefore | hnow
    · exact ⟨hnext.stage.trans (h.ended ending hbefore).1, (h.ended ending hbefore).2⟩
    · exact absurd hnow (hseen ending)

/-- A bridge that has been closed or comes to an end lets go. -/
theorem Orderly.release (h : s.Orderly signs) (closes : List Closing)
    (hcloses : closes = [] ↔ s.closes = [])
    (hwhy : s.closes ≠ [] ∨ ∃ ending, .ended ending ∈ seen)
    (hrunning : (∃ ending, .ended ending ∈ seen) → s.bridge.IsPumping) :
    Orderly { s with bridge := s.bridge.release, closes } (signs ++ seen) where
  fresh hstage := nomatch hstage
  running n hstage := nomatch hstage
  released _ := rfl
  numbered := h.numbered
  distinct := h.distinct
  closed_iff := by
    refine ⟨fun _ => ?_, fun _ => rfl⟩
    rcases hwhy with hne | ⟨ending, hmem⟩
    · exact .inl (mt hcloses.mp hne)
    · exact .inr ⟨ending, List.mem_append_right _ hmem⟩
  ended ending hended := by
    refine ⟨rfl, ?_⟩
    rcases List.mem_append.mp hended with hbefore | hnow
    · exact (h.ended ending hbefore).2
    · obtain ⟨n, hstage⟩ := Bridge.pumping_iff.mp (hrunning ⟨ending, hnow⟩)
      obtain ⟨i, harrived⟩ := h.running n hstage
      exact ⟨i, n, harrived⟩

theorem Orderly.begin_connect (h : s.Orderly signs) :
    Orderly { s with connects := s.connects ++ [.begun] } signs where
  fresh hstage :=
    ⟨fun i n harrived => (h.fresh hstage).1 i n (arrived_begin_connect.mp harrived),
      (h.fresh hstage).2⟩
  running n hstage := by
    obtain ⟨i, harrived⟩ := h.running n hstage
    exact ⟨i, arrived_begin_connect.mpr harrived⟩
  released := h.released
  numbered i n harrived := h.numbered i n (arrived_begin_connect.mp harrived)
  distinct i j n hi hj :=
    h.distinct i j n (arrived_begin_connect.mp hi) (arrived_begin_connect.mp hj)
  closed_iff := h.closed_iff
  ended ending hended := by
    obtain ⟨hstage, i, n, harrived⟩ := h.ended ending hended
    exact ⟨hstage, i, n, arrived_begin_connect.mpr harrived⟩

/-- A call that comes to the connections has a number of its own. -/
theorem Orderly.arrive (h : s.Orderly signs) {i : Nat} (hi : s.connects[i]? = some .begun) :
    Orderly { s with
      bridge := s.bridge.connect
      connects := s.connects.set i (.arrived s.bridge.calls) } signs where
  fresh hstage := absurd (Bridge.stage_eq_fresh.mp hstage) s.bridge.connect_not_fresh
  running n hstage := by
    -- the call takes the connections, or the one that has them keeps them
    by_cases hfresh : s.bridge.stage = .fresh
    · have htaken := Bridge.connect_stage_of_fresh hfresh
      obtain rfl := Bridge.Stage.running.inj (htaken.symm.trans hstage)
      exact ⟨i, (arrived_arrive hi _).mpr (.inl ⟨rfl, rfl⟩)⟩
    · obtain ⟨j, harrived⟩ :=
        h.running n ((Bridge.connect_stage_of_not_fresh hfresh).symm.trans hstage)
      exact ⟨j, (arrived_arrive hi _).mpr (.inr harrived)⟩
  released hstage := by
    by_cases hfresh : s.bridge.stage = .fresh
    · cases (Bridge.connect_stage_of_fresh hfresh).symm.trans hstage
    · rw [Bridge.connect_closed]
      exact h.released ((Bridge.connect_stage_of_not_fresh hfresh).symm.trans hstage)
  numbered j n harrived := by
    rw [Bridge.connect_calls]
    rcases (arrived_arrive hi _).mp harrived with ⟨-, rfl⟩ | hbefore
    · exact Nat.lt_add_one _
    · exact Nat.lt_add_right 1 (h.numbered j n hbefore)
  distinct j k n hj hk := by
    rcases (arrived_arrive hi _).mp hj with ⟨rfl, rfl⟩ | hj' <;>
      rcases (arrived_arrive hi _).mp hk with ⟨rfl, hn⟩ | hk'
    · rfl
    -- the number is new, so nobody else has it
    · exact absurd (h.numbered k _ hk') (Nat.lt_irrefl _)
    · exact absurd (hn ▸ h.numbered j n hj') (Nat.lt_irrefl _)
    · exact h.distinct j k n hj' hk'
  closed_iff := by
    rw [Bridge.connect_closed]
    exact h.closed_iff
  ended ending hended := by
    obtain ⟨hstage, -⟩ := h.ended ending hended
    have hnot : s.bridge.stage ≠ .fresh := by
      rw [hstage]
      nofun
    exact ⟨(Bridge.connect_stage_of_not_fresh hnot).trans hstage, i, s.bridge.calls,
      (arrived_arrive hi _).mpr (.inl ⟨rfl, rfl⟩)⟩

theorem Orderly.begin_close (h : s.Orderly signs) :
    Orderly { s with bridge := s.bridge.flag, closes := s.closes ++ [.flagged] } signs where
  fresh hstage := by
    refine ⟨(h.fresh hstage).1, fun hmem => ?_⟩
    rcases List.mem_append.mp hmem with hbefore | hnow
    · exact (h.fresh hstage).2 hbefore
    · cases List.mem_singleton.mp hnow
  running := h.running
  released _ := rfl
  numbered := h.numbered
  distinct := h.distinct
  closed_iff := ⟨fun _ => .inl (by simp), fun _ => rfl⟩
  ended := h.ended

theorem Orderly.finish_close (h : s.Orderly signs) {k : Nat}
    (hk : s.closes[k]? = some .flagged) :
    Orderly { s with bridge := s.bridge.letGo, closes := s.closes.set k .returned } signs := by
  have hne : s.closes ≠ [] := by
    rintro hnil
    simp [hnil] at hk
  rcases s.bridge.let_go_stage with ⟨-, heq⟩ | ⟨hnot, heq⟩
  · rw [heq, ← List.append_nil signs]
    exact h.release (s.closes.set k .returned) (by simp) (.inl hne) (by simp)
  · rw [heq]
    exact { h with
      fresh := fun hstage => absurd hstage hnot
      closed_iff := by simpa using h.closed_iff }

theorem Orderly.move (h : s.Orderly signs) (hmove : s.Move t seen) : t.Orderly (signs ++ seen) := by
  cases hmove with
  | beginConnect =>
      rw [List.append_nil]
      exact h.begin_connect
  | arrive i hi =>
      rw [List.append_nil]
      exact h.arrive hi
  | beginClose =>
      rw [List.append_nil]
      exact h.begin_close
  | finishClose k hk =>
      rw [List.append_nil]
      exact h.finish_close hk
  | turn hturn =>
      rcases hturn.keeps with ⟨hnext, hseen⟩ | ⟨hpumping, rfl, ending, rfl⟩
      · exact h.continues hnext hseen
      · exact h.release s.closes .rfl (.inr ⟨ending, List.mem_singleton.mpr rfl⟩) fun _ => hpumping

/-! ## What comes later -/

/-- The connections are taken once, and let go of for good. -/
theorem Move.stage (hmove : s.Move t seen) (h : s.bridge.stage ≠ .fresh) :
    t.bridge.stage = s.bridge.stage ∨ t.bridge.stage = .released := by
  cases hmove with
  | beginConnect | beginClose => exact .inl rfl
  | arrive => exact .inl (Bridge.connect_stage_of_not_fresh h)
  | finishClose =>
      rcases s.bridge.let_go_stage with ⟨hfresh, -⟩ | ⟨-, heq⟩
      · exact absurd hfresh h
      · exact .inl (congrArg Bridge.stage heq)
  | turn hturn =>
      rcases hturn.keeps with ⟨hnext, -⟩ | ⟨-, rfl, -⟩
      · exact .inl hnext.stage
      · exact .inr rfl

theorem Move.arrived (hmove : s.Move t seen) {i n : Nat} (h : s.Arrived i n) : t.Arrived i n := by
  cases hmove with
  | beginConnect => exact arrived_begin_connect.mpr h
  | arrive j hj => exact (arrived_arrive hj _).mpr (.inr h)
  | beginClose | finishClose | turn => exact h

theorem run_stage {more : List Action} (hrun : s.run more = some (t, seen))
    (h : s.bridge.stage ≠ .fresh) :
    t.bridge.stage = s.bridge.stage ∨ t.bridge.stage = .released := by
  refine run_steps_keep (P := fun u => u.bridge.stage = s.bridge.stage ∨
    u.bridge.stage = .released) (fun {u v} _ _ hu hstep => ?_) hrun (.inl rfl)
  have hnot : u.bridge.stage ≠ .fresh := by
    rcases hu with heq | heq <;> rw [heq]
    · exact h
    · nofun
  rcases (step_move hstep).stage hnot with heq | heq
  · rwa [heq]
  · exact .inr heq

theorem run_arrived {more : List Action} (hrun : s.run more = some (t, seen)) {i n : Nat}
    (h : s.Arrived i n) : t.Arrived i n :=
  run_steps_keep (P := fun u => u.Arrived i n)
    (fun hu hstep => (step_move hstep).arrived hu) hrun h

end Bridging

end GaleraProxy
