import GaleraProxy.Proofs.Backend.HangingUp
import GaleraProxy.Proofs.Backend.Sweeps
import GaleraProxy.Service.Standing

/-!
# Calls without their numbers

The numbers of bridges and generations depend on everybody who uses a backend. A `Guest` is what is
left of a call without them: where it stands, whether it is of the present generation, whether its
bridge is registered, and whether it waits to be closed by a sever that one looks at. What a call
does next depends on the guest only, and it changes no other guest.
-/

namespace GaleraProxy

/-- A call without the numbers of its bridge and of its generation. A call that has come to its end
is not of the present generation. -/
structure Guest where
  stage : Call.Stage
  present : Bool
  registered : Bool
  swept : Bool
  deriving DecidableEq

/-- A stage without the number of its bridge. -/
def Call.Stage.unnumbered : Call.Stage → Call.Stage
  | .bridged _ bridge point => .bridged 0 bridge point
  | stage => stage

/-- What is left of a call without numbers; `held` are the bridges that a sever has yet to close. -/
def Backend.guest (b : Backend) (held : List BridgeId) (c : Call) : Guest :=
  { stage := c.stage.unnumbered
    present := !c.isOver && b.generation == c.generation
    registered := c.stage.bridgeId?.any b.registry.contains
    swept := c.stage.bridgeId?.any held.contains }

namespace Guest

/-- A guest at another point with another state of its bridge. -/
def moved (g : Guest) (bridge : Bridge) (point : Call.Point) : Guest :=
  { g with stage := .bridged 0 bridge point }

/-- A guest whose bridge has been closed by the sever that one looks at. -/
def closed (g : Guest) : Guest :=
  match g.stage with
  | .bridged _ bridge point => { g.moved bridge.close point with swept := false }
  | .dialing _ | .failed .. | .dialed .. => g

/-- What the call of a guest does next by itself. -/
def next? (g : Guest) : Option Guest :=
  match g.stage with
  | .dialing _ | .failed .. => none
  | .dialed client server =>
      some { g.moved (.create client server) .registered with registered := true, swept := false }
  | .bridged _ bridge .registered =>
      some (g.moved bridge (if g.present then .admitted else .outdated))
  | .bridged _ bridge .outdated => some { g.moved bridge .withdrawn with registered := false }
  | .bridged _ bridge .withdrawn => some { g.moved bridge.close .returned with present := false }
  | .bridged _ bridge .admitted => some (g.moved bridge.connect .copying)
  | .bridged _ bridge .copying =>
      match bridge.step with
      | some bridge => some (g.moved bridge .copying)
      | none =>
          match bridge.phase with
          | .released => some (g.moved bridge .ended)
          | .fresh | .running .. => none
  | .bridged _ bridge .ended =>
      some { g.moved bridge .returned with registered := false, present := false }
  | .bridged _ _ .returned => none

end Guest

namespace Backend

variable {b : Backend} {held : List BridgeId}

theorem guest_bridged (b : Backend) (held : List BridgeId) (generation : Nat) (id : BridgeId)
    (bridge : Bridge) (point : Call.Point) :
    b.guest held ⟨generation, .bridged id bridge point⟩ =
      { stage := .bridged 0 bridge point
        present := decide (point ≠ .returned) && b.generation == generation
        registered := b.registry.contains id
        swept := held.contains id } := by
  cases point <;> rfl

/-- What a call does by itself can be told of its guest. -/
theorem Advance.next_guest {i : Nat} {c : Call} {registry : Registry} {stage : Call.Stage}
    (hconsistent : b.Consistent) (hc : b.calls[i]? = some c)
    (hheld : ∀ id ∈ held, id < b.registry.created)
    (h : Advance b c.generation c.stage registry stage) :
    (b.guest held c).next? = some ((b.withCall registry i { c with stage }).guest held
      { c with stage }) := by
  obtain ⟨generation, before⟩ := c
  have hgone : ∀ id, (b.deregister id).registry.contains id = false := by
    intro id
    have hnot : id ∉ (b.deregister id).registry.members := by
      rw [deregister_members, hconsistent.nodup.mem_erase_iff]
      exact fun hmem => hmem.1 rfl
    simpa [Registry.contains] using hnot
  cases h with
  | register client server =>
      have hnew : b.registry.created ∉ held := fun hmem => Nat.lt_irrefl _ (hheld _ hmem)
      have hbefore : b.guest held ⟨generation, .dialed client server⟩ =
          { stage := .dialed client server, present := b.generation == generation
            registered := false, swept := false } := rfl
      simp [hbefore, guest_bridged, Guest.next?, Guest.moved, withCall, hnew, Registry.create,
        Registry.contains]
  | accept id bridge heq =>
      simp [guest_bridged, Guest.next?, Guest.moved, heq, withCall]
  | outdate id bridge hne =>
      simp [guest_bridged, Guest.next?, Guest.moved, hne, withCall]
  | withdraw id bridge =>
      simp [guest_bridged, Guest.next?, Guest.moved, withCall, hgone]
  | close id bridge =>
      simp [guest_bridged, Guest.next?, Guest.moved, withCall]
  | connect id bridge =>
      simp [guest_bridged, Guest.next?, Guest.moved, withCall]
  | copy id bridge next hstep =>
      simp [guest_bridged, Guest.next?, Guest.moved, withCall, hstep]
  | finish id bridge hphase =>
      have hstuck : bridge.step = none := by
        simp [Bridge.step, Bridge.noticeClose, Bridge.stepUpload, Bridge.stepDownload, hphase]
      simp [guest_bridged, Guest.next?, Guest.moved, withCall, hstuck, hphase]
  | conclude id bridge =>
      simp [guest_bridged, Guest.next?, Guest.moved, withCall, hgone]

/-- What a guest does next, its call can do. -/
theorem advance_of_next_guest {c : Call} {g : Guest} (h : (b.guest held c).next? = some g) :
    ∃ registry stage, Advance b c.generation c.stage registry stage := by
  obtain ⟨generation, stage⟩ := c
  cases stage with
  | dialing client => cases h
  | failed client error => cases h
  | dialed client server => exact ⟨_, _, .register client server⟩
  | bridged id bridge point =>
      cases point with
      | registered =>
          by_cases heq : b.generation = generation
          · exact ⟨_, _, .accept id bridge heq⟩
          · exact ⟨_, _, .outdate id bridge heq⟩
      | outdated => exact ⟨_, _, .withdraw id bridge⟩
      | withdrawn => exact ⟨_, _, .close id bridge⟩
      | admitted => exact ⟨_, _, .connect id bridge⟩
      | ended => exact ⟨_, _, .conclude id bridge⟩
      | returned => cases h
      | copying =>
          rw [guest_bridged] at h
          simp only [Guest.next?] at h
          split at h
          · exact ⟨_, _, .copy id bridge _ ‹_›⟩
          · split at h
            · exact ⟨_, _, .finish id bridge ‹_›⟩
            · cases h
            · cases h

/-! ## Other guests -/

/-- Whatever becomes of a call, the registration of another one's bridge stays. -/
theorem Touch.registered_other {i j : Nat} {c d : Call} {registry : Registry} {stage : Call.Stage}
    (hconsistent : b.Consistent) (hc : b.calls[i]? = some c) (hd : b.calls[j]? = some d)
    (hne : i ≠ j) (h : Touch b c.generation c.stage registry stage) {id : BridgeId}
    (hid : d.stage.bridgeId? = some id) :
    id ∈ registry.members ↔ id ∈ b.registry.members := by
  have hother : c.stage.bridgeId? ≠ some id := fun hown => hne (hconsistent.unique hc hd hown hid)
  have herase : ∀ own, c.stage.bridgeId? = some own →
      (id ∈ (b.deregister own).registry.members ↔ id ∈ b.registry.members) := by
    rintro own hown
    have hne' : id ≠ own := by
      rintro rfl
      exact hother hown
    rw [deregister_members, List.mem_erase_of_ne hne']
  have hnew : id ≠ b.registry.created := Nat.ne_of_lt (hconsistent.id_lt hd hid)
  obtain ⟨generation, before⟩ := c
  cases h with
  | advance hadvance =>
      cases hadvance with
      | register client server => simp [Registry.create, hnew]
      | withdraw own bridge => exact herase own rfl
      | conclude own bridge => exact herase own rfl
      | _ => exact Iff.rfl
  | succeed client server => exact Iff.rfl
  | fail client error => exact Iff.rfl
  | outside hevent => exact Iff.rfl

/-- The registry is looked at for the bridge of a guest only. -/
theorem guest_with_registry {i : Nat} {c d : Call} {registry : Registry}
    (hmem : ∀ id, d.stage.bridgeId? = some id →
      (id ∈ registry.members ↔ id ∈ b.registry.members)) :
    (b.withCall registry i c).guest held d = b.guest held d := by
  have hregistered : d.stage.bridgeId?.any registry.contains =
      d.stage.bridgeId?.any b.registry.contains := by
    cases hid : d.stage.bridgeId? with
    | none => rfl
    | some id =>
        rw [Option.any_some, Option.any_some, Bool.eq_iff_iff]
        simpa [Registry.contains] using hmem id hid
  simp only [guest, withCall, hregistered]

/-- Whatever becomes of a call, other guests stay as they are. -/
theorem Touch.guest_other {i j : Nat} {c d : Call} {registry : Registry} {stage : Call.Stage}
    (hconsistent : b.Consistent) (hc : b.calls[i]? = some c) (hd : b.calls[j]? = some d)
    (hne : i ≠ j) (h : Touch b c.generation c.stage registry stage) :
    (b.withCall registry i { c with stage }).guest held d = b.guest held d :=
  guest_with_registry fun _ hid => h.registered_other hconsistent hc hd hne hid

/-! ## Dials and far ends -/

/-- The guest of a call whose dial has ended with a connection. -/
theorem guest_dialed (i generation : Nat) (client server : Duplex) :
    (b.withCall b.registry i ⟨generation, .dialed client server⟩).guest held
        ⟨generation, .dialed client server⟩ =
      { b.guest held ⟨generation, .dialing client⟩ with stage := .dialed client server } :=
  rfl

/-- The guest of a call whose dial has failed. -/
theorem guest_failed (i generation : Nat) (client dropped : Duplex) (error : ProxyError) :
    (b.withCall b.registry i ⟨generation, .failed dropped error⟩).guest held
        ⟨generation, .failed dropped error⟩ =
      { b.guest held ⟨generation, .dialing client⟩ with
        stage := .failed dropped error, present := false } :=
  rfl

/-- A far end changes the stage of a guest as it changes that of the call. -/
theorem guest_map_far (i : Nat) (side : FarEnd) (f : Duplex → Duplex) (c : Call) :
    (b.withCall b.registry i (c.mapFar side f)).guest held (c.mapFar side f) =
      { b.guest held c with stage := (Call.mapFar side f ⟨0, c.stage.unnumbered⟩).stage } := by
  obtain ⟨generation, stage⟩ := c
  cases stage with
  | bridged id bridge point => cases side <;> cases point <;> rfl
  | _ => cases side <;> rfl

/-! ## Severs -/

/-- A sever ends the generation of every guest. -/
theorem guest_begin_sever {c : Call} (hle : c.generation ≤ b.generation) :
    b.beginSever.1.guest held c = { b.guest held c with present := false } := by
  have hlate : b.beginSever.1.generation = b.generation + 1 := rfl
  have hne : (b.beginSever.1.generation == c.generation) = false := by
    rw [hlate]
    exact beq_eq_false_iff_ne.mpr (by omega)
  simp only [guest, hne, Bool.and_false]
  rfl

/-- The backend once its registry has been swept. -/
def swept (b : Backend) (severs : List Sever) : Backend :=
  { b with registry := b.registry.sweep.2, severs }

/-- The sweep of a sever that one looks at takes the registered guests. -/
theorem guest_sweep (severs : List Sever) (c : Call) :
    (b.swept severs).guest b.registry.members c =
      { b.guest [] c with registered := false, swept := (b.guest [] c).registered } := by
  cases hid : c.stage.bridgeId? with
  | none => simp [guest, swept, hid]
  | some id => simp [guest, swept, hid, Registry.sweep, Registry.contains]

/-- The sweep of another sever takes them away. -/
theorem guest_sweep_other (severs : List Sever) (c : Call) :
    (b.swept severs).guest held c = { b.guest held c with registered := false } := by
  cases hid : c.stage.bridgeId? with
  | none => simp [guest, swept, hid]
  | some id => simp [guest, swept, hid, Registry.sweep, Registry.contains]

theorem hasBridge_iff {id : BridgeId} {c : Call} :
    c.hasBridge id = true ↔ c.stage.bridgeId? = some id := by
  obtain ⟨generation, stage⟩ := c
  cases stage with
  | bridged own bridge point => simp [Call.hasBridge, Call.Stage.bridgeId?]
  | _ => simp [Call.hasBridge, Call.Stage.bridgeId?]

/-- A call that has another bridge is left alone. -/
theorem close_bridge_of_other {id : BridgeId} {c : Call} (h : c.hasBridge id = false) :
    c.closeBridge id = c := by
  obtain ⟨generation, stage⟩ := c
  cases stage with
  | bridged own bridge point =>
      have hne : ¬ own = id := fun heq => by simp [Call.hasBridge, heq] at h
      simp [Call.closeBridge, hne]
  | _ => rfl

/-- The backend once a bridge has been closed. -/
def closed (b : Backend) (id : BridgeId) (severs : List Sever) : Backend :=
  { b with calls := b.calls.map (Call.closeBridge id), severs }

/-- When a sever can take a step, and what it leads to. -/
theorem step_sever_iff {k pick : Nat} {next : Backend} :
    (∃ effects, b.stepSever k pick = some (next, effects)) ↔
      b.severs[k]? = some .raised ∧
          next = b.swept (b.severs.set k (.closing b.registry.members)) ∨
        b.severs[k]? = some (.closing []) ∧
          next = { b with severs := b.severs.set k .returned } ∨
        ∃ ids id, b.severs[k]? = some (.closing ids) ∧ ids[pick]? = some id ∧
          next = b.closed id (b.severs.set k (.closing (ids.eraseIdx pick))) := by
  constructor
  · rintro ⟨effects, h⟩
    unfold stepSever at h
    split at h
    · cases h
    · cases h
    · obtain ⟨rfl, -⟩ := Prod.mk.inj (Option.some.inj h)
      exact .inl ⟨‹_›, rfl⟩
    · obtain ⟨rfl, -⟩ := Prod.mk.inj (Option.some.inj h)
      exact .inr (.inl ⟨‹_›, rfl⟩)
    · split at h
      · cases h
      · obtain ⟨rfl, -⟩ := Prod.mk.inj (Option.some.inj h)
        exact .inr (.inr ⟨_, _, ‹_›, ‹_›, rfl⟩)
  · rintro (⟨hsever, rfl⟩ | ⟨hsever, rfl⟩ | ⟨ids, id, hsever, hid, rfl⟩)
    · exact ⟨[], by simp [stepSever, hsever, swept, Registry.sweep]⟩
    · exact ⟨[b.gauge], by simp only [stepSever, hsever]⟩
    · cases ids with
      | nil => cases hid
      | cons first rest => exact ⟨[], by simp only [stepSever, hsever, hid, closed]⟩

/-- A sever that has returned takes no step. -/
theorem not_returned_of_step {k pick : Nat} {next : Backend}
    (h : ∃ effects, b.stepSever k pick = some (next, effects)) : b.severs[k]? ≠ some .returned := by
  intro hreturned
  rcases step_sever_iff.mp h with ⟨hsever, -⟩ | ⟨hsever, -⟩ | ⟨ids, id, hsever, -⟩
  · cases hreturned.symm.trans hsever
  · cases hreturned.symm.trans hsever
  · cases hreturned.symm.trans hsever

/-- A sever that one looks at closes the bridge of one guest. -/
theorem guest_close {id : BridgeId} {pick : Nat} (severs : List Sever) (hnodup : held.Nodup)
    (hid : held[pick]? = some id) (c : Call) :
    (b.closed id severs).guest (held.eraseIdx pick) (c.closeBridge id) =
      if c.hasBridge id then (b.guest held c).closed else b.guest held c := by
  have hleft : ∀ own, own ∈ held.eraseIdx pick ↔ own ≠ id ∧ own ∈ held := by
    intro own
    obtain ⟨hlt, rfl⟩ := List.getElem?_eq_some_iff.mp hid
    rw [← hnodup.mem_erase_iff, hnodup.erase_getElem]
  split
  · rename_i hhas
    obtain ⟨generation, stage⟩ := c
    cases stage with
    | bridged own bridge point =>
        obtain rfl : own = id := by simpa [Call.hasBridge] using hhas
        have hgone : own ∉ held.eraseIdx pick := fun hmem => ((hleft own).mp hmem).1 rfl
        simp [Call.closeBridge, guest_bridged, Guest.closed, Guest.moved, closed, hgone]
    | dialing client => cases hhas
    | failed client error => cases hhas
    | dialed client server => cases hhas
  · rename_i hhas
    rw [close_bridge_of_other (Bool.not_eq_true _ ▸ hhas)]
    cases hown : c.stage.bridgeId? with
    | none => simp [guest, closed, hown]
    | some own =>
        have hne : own ≠ id := by
          rintro rfl
          exact hhas (hasBridge_iff.mpr hown)
        simp [guest, closed, hown, hleft, hne]

/-! ## Guests whose calls have come to their end -/

/-- A call that has come to its end has let go of its bridge, and the bridge is not registered. -/
theorem bridge_of_over (hconsistent : b.Consistent) {i generation : Nat} {id : BridgeId}
    {bridge : Bridge} {point : Call.Point}
    (hc : b.calls[i]? = some ⟨generation, .bridged id bridge point⟩)
    (hover : Call.isOver ⟨generation, .bridged id bridge point⟩ = true) :
    bridge.close = bridge ∧ id ∉ b.registry.members := by
  have hcustody := hconsistent.custody hc rfl
  cases point with
  | returned =>
      have hreleased : bridge.phase = .released := hcustody.fits
      have hclosed := (hcustody.sound.released hreleased).1
      refine ⟨?_, hcustody.gone rfl⟩
      simp only [Bridge.close, hreleased]
      rw [← hclosed, ← hreleased]
  | _ => cases hover

/-- A sever that begins does nothing to a call that has come to its end. -/
theorem guest_begin_sever_of_over {c : Call} (hover : c.isOver = true) :
    b.beginSever.1.guest held c = b.guest held c := by
  simp only [guest, hover, Bool.not_true, Bool.false_and]
  rfl

/-- Nor does a sever that goes on. -/
theorem SeverAdvance.guest_of_over {k i : Nat} {next : Backend} {c : Call}
    (h : SeverAdvance b k next) (hconsistent : b.Consistent) (hc : b.calls[i]? = some c)
    (hover : c.isOver = true) :
    next.calls[i]? = some c ∧ next.guest held c = b.guest held c := by
  obtain ⟨generation, stage⟩ := c
  cases h with
  | conclude => exact ⟨hc, rfl⟩
  | sweep hraised =>
      refine ⟨hc, (guest_sweep_other _ _).trans ?_⟩
      cases stage with
      | bridged id bridge point =>
          have hgone := (bridge_of_over hconsistent hc hover).2
          simp [guest_bridged, Registry.contains, hgone]
      | dialing client => rfl
      | failed client error => rfl
      | dialed client server => rfl
  | close ids pick id hclosing hid =>
      refine ⟨?_, rfl⟩
      rw [List.getElem?_map, hc, Option.map_some]
      cases stage with
      | bridged own bridge point =>
          rw [Call.closeBridge]
          simp only [(bridge_of_over hconsistent hc hover).1, ite_self]
      | dialing client => rfl
      | failed client error => rfl
      | dialed client server => rfl

end Backend

end GaleraProxy
