import GaleraProxy.Proofs.Backend.Severing

/-!
# Clients that come too late

Once a backend has been severed, a client that was sent there before and has not been admitted is
barred. `Barred.step` says that nothing lets such a client in, neither later severs nor the order in
which the steps are taken, and `Barred.waiting_cases` says how its call ends.
-/

namespace GaleraProxy

/-- The call has not been admitted, and its bridge has not started to copy. -/
def Call.Stage.IsBarred : Call.Stage → Prop
  | .bridged _ bridge point => point.isAdmitted = false ∧ ¬ bridge.IsPumping
  | .dialing _ | .failed .. | .dialed .. => True

/-- A call whose bridge is closed is not let in by that. -/
theorem Call.Stage.IsBarred.close_bridge {id : BridgeId} {c : Call} (h : c.stage.IsBarred) :
    (c.closeBridge id).stage.IsBarred := by
  obtain ⟨generation, stage⟩ := c
  cases stage with
  | dialing client => exact h
  | failed client error => exact h
  | dialed client server => exact h
  | bridged own bridge point =>
      simp only [Call.closeBridge]
      split
      · exact ⟨h.1, Bridge.close_not_pumping h.2⟩
      · exact h

namespace Backend

variable {b : Backend}

/-- A call was not admitted in its generation, and that generation is over. -/
def Barred (b : Backend) (i : Nat) : Prop :=
  ∃ c, b.calls[i]? = some c ∧ c.generation < b.generation ∧ c.stage.IsBarred

/-- A call of an earlier generation is not admitted by its own steps. -/
theorem Advance.is_barred {generation : Nat} {registry : Registry} {stage stage' : Call.Stage}
    (h : Advance b generation stage registry stage') (hearlier : generation < b.generation)
    (hbarred : stage.IsBarred) : stage'.IsBarred := by
  cases h with
  | register client server => exact ⟨rfl, Bridge.not_pumping_of_fresh rfl⟩
  -- only a call of the present generation is accepted
  | accept id bridge heq => exact absurd heq (Nat.ne_of_gt hearlier)
  | outdate id bridge hne => exact ⟨rfl, hbarred.2⟩
  | withdraw id bridge => exact ⟨rfl, hbarred.2⟩
  | close id bridge => exact ⟨rfl, Bridge.close_not_pumping hbarred.2⟩
  -- what is left is for calls that were admitted
  | connect id bridge => cases hbarred.1
  | copy id bridge next hcopy => cases hbarred.1
  | finish id bridge hphase => cases hbarred.1
  | conclude id bridge => cases hbarred.1

/-- Nothing that becomes of a call of an earlier generation lets it in. -/
theorem Touch.is_barred {generation : Nat} {registry : Registry} {stage stage' : Call.Stage}
    (h : Touch b generation stage registry stage') (hearlier : generation < b.generation)
    (hbarred : stage.IsBarred) : stage'.IsBarred := by
  cases h with
  | advance hadvance => exact hadvance.is_barred hearlier hbarred
  | succeed client server => trivial
  | fail client error => trivial
  | outside hevent =>
      cases hevent with
      | dialing client client' => trivial
      | failed error hdropped => trivial
      | dialed client client' server server' => trivial
      | bridged id bridge point hclient hserver => exact hbarred

theorem Barred.sever_advance {i k : Nat} {next : Backend} (h : b.Barred i)
    (hadvance : SeverAdvance b k next) : next.Barred i := by
  obtain ⟨c, hc, hearlier, hstage⟩ := h
  cases hadvance with
  | sweep => exact ⟨c, hc, hearlier, hstage⟩
  | conclude => exact ⟨c, hc, hearlier, hstage⟩
  | close ids pick id =>
      refine ⟨c.closeBridge id, by simp [hc], ?_, hstage.close_bridge⟩
      rw [close_bridge_generation]
      exact hearlier

/-- No action lets a barred call in. -/
theorem Barred.step {i : Nat} (h : b.Barred i) {action : Action} {next : Backend}
    {effects : List Effect} (hstep : b.step action = some (next, effects)) : next.Barred i := by
  obtain ⟨c, hc, hearlier, hstage⟩ := id h
  cases step_transition hstep with
  | @touch j d registry stage hown hd htouch =>
      by_cases heq : j = i
      · subst heq
        obtain rfl := Option.some.inj (hd.symm.trans hc)
        exact ⟨{ d with stage }, by rw [with_call_get hd, if_pos rfl], hearlier,
          htouch.is_barred hearlier hstage⟩
      · exact ⟨c, by rw [with_call_get hd, if_neg heq, hc], hearlier, hstage⟩
  | setHealthy healthy => exact h
  | advanceSever hown hadvance => exact h.sever_advance hadvance
  | beginSever => exact ⟨c, hc, Nat.lt_succ_of_lt hearlier, hstage⟩
  | beginCall client generation =>
      have hlt := (List.getElem?_eq_some_iff.mp hc).1
      exact ⟨c, (List.getElem?_append_left hlt).trans hc, hearlier, hstage⟩

/-- A barred call that has to wait is still dialing, or its client has been turned away. -/
theorem Barred.waiting_cases {i : Nat} (hbarred : b.Barred i) (h : b.Consistent)
    (hwaits : b.stepCall i = none) :
    ∃ call, b.calls[i]? = some call ∧
      ((∃ client, call.stage = .dialing client) ∨
        (∃ client error, call.stage = .failed client error ∧ client.IsDropped) ∨
        ∃ id bridge, call.stage = .bridged id bridge .returned ∧ bridge.closed = true ∧
          bridge.client.IsDropped) := by
  obtain ⟨⟨generation, stage⟩, hcall, -, hstage⟩ := hbarred
  refine ⟨⟨generation, stage⟩, hcall, ?_⟩
  cases stage with
  | dialing client => exact .inl ⟨client, rfl⟩
  | failed client error => exact .inr (.inl ⟨client, error, rfl, h.refused hcall rfl⟩)
  | dialed client server => simp [stepCall, hcall] at hwaits
  | bridged id bridge point =>
      rcases h.waiting_cases hcall rfl hwaits with ⟨-, hpumping, -⟩ | ⟨rfl, hclosed⟩
      · exact absurd hpumping hstage.2
      · have hcustody := h.custody hcall rfl
        exact .inr (.inr ⟨id, bridge, rfl, hclosed, (hcustody.sound.released hcustody.fits).2.1⟩)

end Backend

end GaleraProxy
