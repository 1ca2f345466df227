import GaleraProxy.Proofs.Session.Stages

/-!
# Every bridge settles

A bridge at work is settled when nothing that has begun can go on. Otherwise it can go on by itself,
and every such step leaves less to do, so that it settles unless somebody begins something new or
does something at a far end. A settled bridge that is copying waits in both directions.
-/

namespace GaleraProxy

namespace Bridge

variable {b next : Bridge} {side : Side}

/-- The direction that copies the output of a side waits for room in an open sink, or for a source
that is open and empty. -/
def Waits (b : Bridge) (side : Side) : Prop :=
  ∃ c, b.copy? side = some c ∧
    ((c.pending ≠ [] ∧ (b.sink side).closed = false ∧ (b.sink side).room = 0) ∨
      (c.pending = [] ∧ c.sourceEnded = false ∧ (b.source side).closed = false ∧
        (b.source side).bytes = []))

/-- A bridge that can take no step while it copies has not been closed, and both directions wait. -/
theorem waits_of_step_eq_none (h : b.IsPumping) (hstep : b.step = none) :
    b.closed = false ∧ ∀ side, b.Waits side := by
  obtain ⟨call, upload, download, hphase⟩ := h
  simp only [step, Option.orElse_eq_orElse, Option.orElse_eq_or, Option.or_eq_none_iff,
    noticeClose, stepUpload, stepDownload, hphase] at hstep
  obtain ⟨hclosed, hupload, hdownload⟩ := hstep
  refine ⟨by simpa using hclosed, fun side => ?_⟩
  cases side with
  | client =>
      refine ⟨upload, by simp [copy?, hphase], Copy.blocked_iff.mp ?_⟩
      split at hupload
      · assumption
      · cases hupload
      · cases hupload
  | server =>
      refine ⟨download, by simp [copy?, hphase], Copy.blocked_iff.mp ?_⟩
      split at hdownload
      · assumption
      · cases hdownload
      · cases hdownload

/-- How much there is left to do for a bridge, also before it has been started. -/
def left (b : Bridge) : Nat :=
  match b.phase with
  -- a call that has begun will start to copy what is in the pipes by then
  | .fresh => b.connect.work + 1
  | .running .. | .released => b.work

theorem left_of_pumping (h : b.IsPumping) : b.left = b.work ∧ 0 < b.work := by
  obtain ⟨call, upload, download, hphase⟩ := h
  simp [left, work, hphase]

@[simp] theorem release_left (b : Bridge) : b.release.left = 0 := rfl

theorem connect_left_le (b : Bridge) : b.connect.left ≤ b.left := by
  cases hphase : b.phase with
  | fresh => simp [left, connect, hphase]
  | running | released => simp [left, connect, work, hphase]

theorem let_go_left_le (b : Bridge) : b.letGo.left ≤ b.left := by
  rcases b.let_go_stage with ⟨-, heq⟩ | ⟨-, heq⟩
  · simp [heq]
  · exact Nat.le_of_eq (congrArg left heq)

/-- The work of a bridge is that of its two directions. -/
theorem with_copy_work {c : Copy} (hcopy : b.copy? side = some c) (source sink : Pipe)
    (next : Copy) : (b.withCopy side source sink next).work + c.work (b.source side) =
      b.work + next.work source := by
  obtain ⟨call, upload, download, hphase⟩ := pumping_of_copy hcopy
  cases side <;> simp only [copy?, hphase, Option.some.injEq] at hcopy <;> subst hcopy <;>
    simp only [withCopy, withConnection, connection, Phase.withCopy, Bridge.source, Side.other,
      work, Copy.work, hphase] <;>
    omega

theorem with_copy_left_lt {c : Copy} (hcopy : b.copy? side = some c) {source : Pipe} (sink : Pipe)
    {next : Copy} (h : next.work source < c.work (b.source side)) :
    (b.withCopy side source sink next).left < b.left := by
  have hpumping := pumping_of_copy hcopy
  have hnext : (b.withCopy side source sink next).IsPumping := by
    rw [pumping_iff, (b.with_copy_continues side source sink next).stage, ← pumping_iff]
    exact hpumping
  have hwork := with_copy_work hcopy source sink next
  rw [(left_of_pumping hnext).1, (left_of_pumping hpumping).1]
  omega

theorem release_left_lt (h : b.IsPumping) : b.release.left < b.left := by
  rw [release_left, (left_of_pumping h).1]
  exact (left_of_pumping h).2

theorem copy_from_left_lt (side : Side) (h : b.copyFrom side = some next) :
    next.left < b.left := by
  obtain ⟨c, hcopy, ⟨-, rfl⟩ | ⟨source, sink, c', hmoved, rfl⟩⟩ := copy_from_cases h
  · exact release_left_lt (pumping_of_copy hcopy)
  · exact with_copy_left_lt hcopy sink (Copy.step_work_lt hmoved)

/-- Every step of a bridge leaves less to do. -/
theorem step_left_lt (h : b.step = some next) : next.left < b.left := by
  simp only [step, Option.orElse_eq_orElse, Option.orElse_eq_or, Option.or_eq_some_iff] at h
  rcases h with hnotice | ⟨-, hupload | ⟨-, hdownload⟩⟩
  · obtain ⟨hpumping, -, rfl⟩ := notice_close_cases hnotice
    exact release_left_lt hpumping
  · exact copy_from_left_lt .client hupload
  · exact copy_from_left_lt .server hdownload

theorem close_left_le (b : Bridge) : b.close.left ≤ b.left := by
  cases hphase : b.phase with
  | fresh => simp [left, close, release, work, hphase]
  | running | released => simp [left, close, work, hphase]

end Bridge

namespace Bridging

variable {s t : Bridging} {seen : List Sign}

/-- Nothing that has begun can go on. -/
structure Settled (s : Bridging) : Prop where
  connects : .begun ∉ s.connects
  closes : .flagged ∉ s.closes
  waits : s.bridge.step = none

/-- What has begun can go on unless the bridge is settled. -/
theorem settled_or_goes_on (s : Bridging) :
    s.Settled ∨ ∃ action : Action, action.isOwn = true ∧ (s.step action).isSome = true := by
  by_cases hconnects : .begun ∈ s.connects
  · obtain ⟨i, hi⟩ := List.mem_iff_getElem?.mp hconnects
    exact .inr ⟨.arrive i, rfl, by simp [step, hi]⟩
  by_cases hcloses : .flagged ∈ s.closes
  · obtain ⟨k, hk⟩ := List.mem_iff_getElem?.mp hcloses
    exact .inr ⟨.finishClose k, rfl, by simp [step, hk]⟩
  cases hstep : s.bridge.step with
  | none => exact .inl ⟨hconnects, hcloses, hstep⟩
  | some next =>
      right
      simp only [Bridge.step, Option.orElse_eq_orElse, Option.orElse_eq_or,
        Option.or_eq_some_iff] at hstep
      rcases hstep with hnext | ⟨-, hnext | ⟨-, hnext⟩⟩
      · exact ⟨.noticeClose, rfl, by simp [step, hnext]⟩
      · exact ⟨.copy .client, rfl, by simp [step, Bridge.copyFrom, hnext]⟩
      · exact ⟨.copy .server, rfl, by simp [step, Bridge.copyFrom, hnext]⟩

/-- How many steps there are at most until a bridge has settled. -/
def work (s : Bridging) : Nat :=
  s.bridge.left + s.connects.count .begun + s.closes.count .flagged

/-- Replacing an entry makes for one less of its kind. -/
theorem count_set_add_one {α : Type} [BEq α] [LawfulBEq α] {l : List α} {i : Nat} {a b : α}
    (h : l[i]? = some a) (hne : b ≠ a) : (l.set i b).count a + 1 = l.count a := by
  obtain ⟨hlt, rfl⟩ := List.getElem?_eq_some_iff.mp h
  have hpos : 0 < l.count l[i] := List.count_pos_iff.mpr (List.getElem_mem hlt)
  have hcount := List.count_set (a := b) (b := l[i]) hlt
  simp only [beq_self_eq_true, ite_true, beq_false_of_ne hne, Bool.false_eq_true, ite_false]
    at hcount
  omega

/-- Every step that goes on with what has begun leaves less to do. -/
theorem step_work_lt {action : Action} (hown : action.isOwn = true)
    (h : s.step action = some (t, seen)) : t.work < s.work := by
  cases action with
  | beginConnect | beginClose | write | read | shutdown | drop => cases hown
  | arrive i =>
      simp only [step] at h
      split at h
      · rename_i hi
        obtain ⟨rfl, -⟩ := Prod.mk.inj (Option.some.inj h)
        have hleft := s.bridge.connect_left_le
        have hcount := count_set_add_one hi (b := .arrived s.bridge.calls) (by simp)
        simp only [work]
        omega
      · cases h
      · cases h
  | finishClose k =>
      simp only [step] at h
      split at h
      · rename_i hk
        obtain ⟨rfl, -⟩ := Prod.mk.inj (Option.some.inj h)
        have hleft := s.bridge.let_go_left_le
        have hcount := count_set_add_one hk (b := .returned) (by simp)
        simp only [work]
        omega
      · cases h
      · cases h
  | copy side =>
      obtain ⟨next, hnext, heq⟩ := Option.map_eq_some_iff.mp h
      obtain ⟨rfl, -⟩ := Prod.mk.inj heq
      have hleft := Bridge.copy_from_left_lt side hnext
      simp only [work]
      omega
  | readAhead side n =>
      obtain ⟨next, hnext, heq⟩ := Option.map_eq_some_iff.mp h
      obtain ⟨rfl, -⟩ := Prod.mk.inj heq
      have hleft : next.left < s.bridge.left := by
        obtain ⟨c, source, c', hcopy, hahead, rfl⟩ := Bridge.read_ahead_from_cases hnext
        exact Bridge.with_copy_left_lt hcopy _ (Copy.read_ahead_work_lt hahead)
      simp only [work]
      omega
  | noticeClose =>
      obtain ⟨next, hnext, heq⟩ := Option.map_eq_some_iff.mp h
      obtain ⟨rfl, -⟩ := Prod.mk.inj heq
      obtain ⟨hpumping, -, rfl⟩ := Bridge.notice_close_cases hnext
      have hleft := Bridge.release_left_lt hpumping
      simp only [work]
      omega

/-- A run of such steps is no longer than what there was to do. -/
theorem length_le_work {more : List Action} (hown : ∀ action ∈ more, action.isOwn = true)
    (hrun : s.run more = some (t, seen)) : more.length ≤ s.work := by
  -- by induction on the run, whose first step leaves less to do
  induction more generalizing s seen with
  | nil => exact Nat.zero_le _
  | cons action rest ih =>
      obtain ⟨u, first, others, hstep, hrest, -⟩ := run_steps_cons.mp hrun
      obtain ⟨haction, hothers⟩ := List.forall_mem_cons.mp hown
      have hlt := step_work_lt haction hstep
      have hle := ih hothers hrest
      rw [List.length_cons]
      omega

end Bridging

end GaleraProxy
