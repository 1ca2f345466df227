import GaleraProxy.Proofs.Backend.Motion
import GaleraProxy.Proofs.Session.Release

/-!
# The bridges of a backend are truthful

Whatever happens at a backend, its bridges note the end of a source only once that has been closed.
-/

namespace GaleraProxy

/-- The bridge of a call, once there is one, is truthful. -/
def Call.Stage.Truthful : Call.Stage → Prop
  | .bridged _ bridge _ => bridge.Truthful
  | .dialing _ | .failed .. | .dialed .. => True

/-- What happens at a far end opens nothing. -/
theorem Duplex.from_far_closed {d : Duplex} (h : d.fromFar.closed = true) (event : FarEvent) :
    (d.afterFar event).fromFar.closed = true := by
  cases event with
  | write bytes =>
      simp only [afterFar]
      split
      · exact h
      · exact h
  | shutdown => rfl
  | drop => rfl
  | read => exact h

/-- One of the two ends of a call that are not in the hands of the proxy. -/
inductive FarEnd where
  | client
  | server

namespace Call

/-- A call with the connection of one far end changed. -/
def mapFar (side : FarEnd) (f : Duplex → Duplex) (c : Call) : Call :=
  match side with
  | .client => c.mapClient f
  | .server => c.mapServer f

variable {c : Call}

theorem map_far_truthful (h : c.stage.Truthful) (side : FarEnd) (event : Duplex.FarEvent) :
    (c.mapFar side fun d => d.afterFar event).stage.Truthful := by
  obtain ⟨generation, stage⟩ := c
  cases stage with
  | bridged id bridge point =>
      cases side with
      | client =>
          exact Bridge.Truthful.with_connections h
            (fun hclosed => Duplex.from_far_closed hclosed event) fun hclosed => hclosed
      | server =>
          exact Bridge.Truthful.with_connections h (fun hclosed => hclosed)
            fun hclosed => Duplex.from_far_closed hclosed event
  | dialing client => cases side <;> trivial
  | failed client error => cases side <;> trivial
  | dialed client server => cases side <;> trivial

theorem close_bridge_truthful (h : c.stage.Truthful) (id : BridgeId) :
    (c.closeBridge id).stage.Truthful := by
  obtain ⟨generation, stage⟩ := c
  cases stage with
  | bridged own bridge point =>
      simp only [closeBridge]
      split
      · exact Bridge.Truthful.close h
      · exact h
  | dialing client => trivial
  | failed client error => trivial
  | dialed client server => trivial

end Call

namespace Backend

variable {b next : Backend}

/-- The bridges of all calls are truthful. -/
def Truthful (b : Backend) : Prop := ∀ c ∈ b.calls, c.stage.Truthful

theorem Advance.truthful {generation : Nat} {registry : Registry} {stage stage' : Call.Stage}
    (h : Advance b generation stage registry stage') (hstage : stage.Truthful) :
    stage'.Truthful := by
  cases h with
  | register client server =>
      exact Bridge.truthful_of_not_pumping (Bridge.not_pumping_of_fresh rfl)
  | close id bridge => exact Bridge.Truthful.close hstage
  | connect id bridge => exact Bridge.Truthful.connect hstage
  | copy id bridge next hstep => exact Bridge.Truthful.step hstage hstep
  | _ => exact hstage

/-- A call may change as long as its bridge stays truthful. -/
theorem Truthful.modify_call (h : b.Truthful) {i : Nat} {f : Call → Call}
    (hf : ∀ c : Call, c.stage.Truthful → (f c).stage.Truthful) :
    (b.modifyCall i f).Truthful := by
  intro c hc
  obtain ⟨n, hn⟩ := List.getElem?_of_mem hc
  rw [modifyCall, List.getElem?_modify] at hn
  obtain ⟨d, hd, rfl⟩ := Option.map_eq_some_iff.mp hn
  split
  · exact hf d (h d (List.mem_of_getElem? hd))
  · exact h d (List.mem_of_getElem? hd)

/-- Every action keeps the bridges of a backend truthful. -/
theorem Truthful.step (h : b.Truthful) {action : Action} {effects : List Effect}
    (hstep : b.step action = some (next, effects)) : next.Truthful := by
  cases action with
  | stepCall i =>
      obtain ⟨c, registry, stage, hc, hadvance, rfl⟩ := step_call_cases hstep
      intro d hd
      rcases List.mem_or_eq_of_mem_set hd with hold | rfl
      · exact h d hold
      · exact hadvance.truthful (h c (List.mem_of_getElem? hc))
  | stepSever k pick =>
      cases step_sever_cases hstep with
      | sweep => exact h
      | conclude => exact h
      | close ids pick id =>
          intro d hd
          obtain ⟨c, hc, rfl⟩ := List.mem_map.mp hd
          exact Call.close_bridge_truthful (h c hc) id
  | beginSever =>
      obtain rfl := congrArg Prod.fst (Option.some.inj hstep)
      exact h
  | beginCall client generation =>
      obtain ⟨rfl, -⟩ := Prod.mk.inj (Option.some.inj hstep)
      intro d hd
      rcases List.mem_append.mp hd with hold | hnew
      · exact h d hold
      · rw [List.mem_singleton.mp hnew]
        trivial
  | endDial i result =>
      obtain ⟨rfl, -⟩ := Prod.mk.inj (Option.some.inj hstep)
      unfold endDial
      split
      · cases result <;> exact h.modify_call fun _ _ => trivial
      · exact h
  | clientEvent i event =>
      obtain ⟨rfl, -⟩ := Prod.mk.inj (Option.some.inj hstep)
      exact h.modify_call fun _ hc => Call.map_far_truthful hc .client event
  | serverEvent i event =>
      obtain ⟨rfl, -⟩ := Prod.mk.inj (Option.some.inj hstep)
      exact h.modify_call fun _ hc => Call.map_far_truthful hc .server event
  | setHealthy healthy =>
      obtain rfl := congrArg Prod.fst (Option.some.inj hstep)
      exact h

/-- The bridges of all backends of a list are truthful. -/
def AllTruthful (backends : List Backend) : Prop := ∀ b ∈ backends, b.Truthful

theorem all_truthful_of_config (configs : List BackendConfig) :
    AllTruthful (configs.map ofConfig) := by
  intro b hb c hc
  obtain ⟨config, -, rfl⟩ := List.mem_map.mp hb
  cases hc

theorem AllTruthful.onward {backends backends' : List Backend} (h : AllTruthful backends)
    (honward : Onward backends backends') : AllTruthful backends' := by
  intro b' hb'
  obtain ⟨j, hj⟩ := List.getElem?_of_mem hb'
  obtain ⟨b, hb, hmoves⟩ := honward.before hj
  have hbefore := h b (List.mem_of_getElem? hb)
  rcases hmoves with rfl | ⟨action, effects, hstep⟩
  · exact hbefore
  · exact hbefore.step hstep

end Backend

end GaleraProxy
