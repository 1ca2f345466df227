import GaleraProxy.Proofs.Backend.Motion
import GaleraProxy.Proofs.Backend.Severing
import GaleraProxy.Proofs.Session.Settling
import Mathlib.Algebra.Order.BigOperators.Group.List
import Mathlib.Algebra.Order.Group.Nat
import Mathlib.Data.List.Nodup
import Mathlib.Data.List.Perm.Basic

/-!
# What a backend records

An operation comes from outside, and calls and severs then go on by themselves until the backend is
settled. In a settled backend exactly the bridges of the calls that are being served are registered,
and the gauge has been told their number.
-/

namespace GaleraProxy

/-!
## Operations that settle

An operation comes from outside: a client is sent to the backend, a dial ends, a far end does
something, the health changes, or the backend is severed. Calls and severs then go on by themselves,
in any order, until the backend is settled. Every such step leaves less to do, so that every
operation settles: `operation_settles`.
-/

/-- How far a point is from the end of its call, apart from what its bridge has to do. -/
def Call.Point.left : Call.Point → Nat
  | registered => 4
  | outdated | admitted => 3
  | withdrawn | copying => 2
  | ended => 1
  | returned => 0

/-- How much there is left to do for a call without anything from outside. -/
def Call.left (c : Call) : Nat :=
  match c.stage with
  | .dialing _ | .failed .. => 0
  -- the bridge that is going to be registered may have to be swept
  | .dialed client server => (Bridge.create client server).left + Call.Point.left .registered + 2
  | .bridged _ bridge point => bridge.left + point.left

/-- How much there is left to do for a sever, apart from what it has yet to sweep. -/
def Sever.remaining : Sever → Nat
  | raised => 2
  | closing ids => ids.length + 1
  | returned => 0

namespace Backend

/-- Whether an action comes from outside. -/
def Action.isOperation : Action → Bool
  | stepCall _ | stepSever .. => false
  | beginCall .. | endDial .. | beginSever | clientEvent .. | serverEvent .. | setHealthy _ => true

/-- Neither a call nor a sever can go on by itself. -/
structure Settled (b : Backend) : Prop where
  calls : ∀ i, b.stepCall i = none
  severs : ∀ k pick, b.stepSever k pick = none

/-- What may come of an operation, and what is to be seen until the backend is settled again. Calls
and severs go on in any order. -/
def Operates (b : Backend) (operation : Action) (b' : Backend) (shown : List Effect) : Prop :=
  operation.isOperation = true ∧ b'.Settled ∧
    ∃ steps : List Action, (∀ action ∈ steps, action.isOperation = false) ∧
      runSteps step b (operation :: steps) = some (b', shown)

/-- A configured backend may be in the given state after a sequence of operations, each of which
settled before the next one, and the given effects are all that was to be seen. -/
inductive History (c : BackendConfig) : Backend → List Effect → Prop where
  | nil : History c (ofConfig c) []
  | operate {b b' : Backend} {seen shown : List Effect} (operation : Action) (h : History c b seen)
      (hoperates : b.Operates operation b' shown) : History c b' (seen ++ shown)

variable {b next : Backend}

/-- A settled backend is told from its calls and severs. -/
theorem settled_iff : b.Settled ↔
    (∀ i < b.calls.length, b.stepCall i = none) ∧ ∀ sever ∈ b.severs, sever = .returned := by
  constructor
  · refine fun h => ⟨fun i _ => h.calls i, fun sever hmem => ?_⟩
    obtain ⟨k, hsever⟩ := List.mem_iff_getElem?.mp hmem
    have hnone := h.severs k 0
    cases sever with
    | returned => rfl
    | raised => simp [stepSever, hsever] at hnone
    | closing ids => cases ids <;> simp [stepSever, hsever] at hnone
  · rintro ⟨hcalls, hsevers⟩
    refine ⟨fun i => ?_, fun k pick => ?_⟩
    · by_cases hi : i < b.calls.length
      · exact hcalls i hi
      · simp [stepCall, List.getElem?_eq_none (Nat.le_of_not_lt hi)]
    · cases hsever : b.severs[k]? with
      | none => simp [stepSever, hsever]
      | some sever =>
          obtain rfl := hsevers sever (List.mem_of_getElem? hsever)
          simp [stepSever, hsever]

instance (b : Backend) : Decidable b.Settled := decidable_of_iff _ settled_iff.symm

theorem Settled.severs_returned (h : b.Settled) {k : Nat} {sever : Sever}
    (hsever : b.severs[k]? = some sever) : sever = .returned :=
  (settled_iff.mp h).2 sever (List.mem_of_getElem? hsever)

/-- How much calls and severs have to do until the backend is settled. A registered bridge may have
to be closed by a sever. -/
def left (b : Backend) : Nat :=
  b.registry.members.length + (b.calls.map Call.left).sum + (b.severs.map Sever.remaining).sum

/-- A call that takes a step changes what is left by what it had and has to do. -/
theorem with_call_left (registry : Registry) {i : Nat} {c : Call} (hc : b.calls[i]? = some c)
    (d : Call) :
    (b.withCall registry i d).left + b.registry.members.length + c.left =
      b.left + registry.members.length + d.left := by
  have hsum := sum_map_set_add Call.left hc d
  simp only [left, withCall]
  omega

/-- A bridge that leaves the registry does not make it larger. -/
theorem deregister_length_le (b : Backend) (id : BridgeId) :
    (b.deregister id).registry.members.length ≤ b.registry.members.length := by
  rw [deregister_members]
  exact List.length_erase_le

/-- Every step of a call leaves less to do. -/
theorem Advance.left_lt {i generation : Nat} {registry : Registry} {stage stage' : Call.Stage}
    (h : Advance b generation stage registry stage')
    (hc : b.calls[i]? = some ⟨generation, stage⟩) :
    (b.withCall registry i ⟨generation, stage'⟩).left < b.left := by
  have hleft := with_call_left registry hc ⟨generation, stage'⟩
  cases h with
  | register client server =>
      simp only [Call.left, Registry.create, List.length_append, List.length_singleton] at hleft
      simp only [Registry.create]
      omega
  | accept | outdate | finish =>
      simp only [Call.left, Call.Point.left] at hleft
      omega
  | withdraw id | conclude id =>
      have hle := b.deregister_length_le id
      simp only [Call.left, Call.Point.left] at hleft
      omega
  | close id bridge =>
      have hle := bridge.close_left_le
      simp only [Call.left, Call.Point.left] at hleft
      omega
  | connect id bridge =>
      have hle := bridge.connect_left_le
      simp only [Call.left, Call.Point.left] at hleft
      omega
  | copy id bridge next hstep =>
      have hlt := Bridge.step_left_lt hstep
      simp only [Call.left, Call.Point.left] at hleft
      omega

theorem close_bridge_left_le (id : BridgeId) (c : Call) : (c.closeBridge id).left ≤ c.left := by
  obtain ⟨generation, stage⟩ := c
  cases stage with
  | dialing | failed | dialed => exact Nat.le_refl _
  | bridged own bridge point =>
      simp only [Call.closeBridge]
      split
      · exact Nat.add_le_add_right bridge.close_left_le _
      · exact Nat.le_refl _

/-- Every step of a sever leaves less to do. -/
theorem SeverAdvance.left_lt {k : Nat} (h : SeverAdvance b k next) : next.left < b.left := by
  cases h with
  | sweep hraised =>
      have hsum := sum_map_set_add Sever.remaining hraised (.closing b.registry.members)
      simp only [left, Registry.sweep, Sever.remaining, List.length_nil] at hsum ⊢
      omega
  | close ids pick id hclosing hid =>
      have hsum := sum_map_set_add Sever.remaining hclosing (.closing (ids.eraseIdx pick))
      have hcalls : ((b.calls.map (Call.closeBridge id)).map Call.left).sum ≤
          (b.calls.map Call.left).sum := by
        rw [List.map_map]
        exact List.sum_le_sum fun c _ => close_bridge_left_le id c
      have hlt := (List.getElem?_eq_some_iff.mp hid).1
      have hlength := List.length_eraseIdx_of_lt hlt
      simp only [left, Sever.remaining] at hsum ⊢
      omega
  | conclude hclosing =>
      have hsum := sum_map_set_add Sever.remaining hclosing .returned
      simp only [left, Sever.remaining, List.length_nil] at hsum ⊢
      omega

/-- Whatever goes on by itself leaves less to do. -/
theorem step_left_lt {action : Action} {effects : List Effect}
    (haction : action.isOperation = false) (h : b.step action = some (next, effects)) :
    next.left < b.left := by
  cases action with
  | stepCall i =>
      obtain ⟨c, registry, stage, hc, hadvance, rfl⟩ := step_call_cases h
      exact hadvance.left_lt hc
  | stepSever k pick => exact (step_sever_cases h).left_lt
  | beginCall | endDial | beginSever | clientEvent | serverEvent | setHealthy => cases haction

/-- What can go on does so unless the backend is settled. -/
theorem settled_or_goes_on (b : Backend) :
    b.Settled ∨ ∃ action : Action, action.isOperation = false ∧ (b.step action).isSome = true := by
  by_cases hcalls : ∃ i, (b.stepCall i).isSome = true
  · obtain ⟨i, hi⟩ := hcalls
    exact .inr ⟨.stepCall i, rfl, hi⟩
  by_cases hsevers : ∃ k pick, (b.stepSever k pick).isSome = true
  · obtain ⟨k, pick, hsome⟩ := hsevers
    exact .inr ⟨.stepSever k pick, rfl, hsome⟩
  · refine .inl ⟨fun i => ?_, fun k pick => ?_⟩
    · exact Option.not_isSome_iff_eq_none.mp fun hsome => hcalls ⟨i, hsome⟩
    · exact Option.not_isSome_iff_eq_none.mp fun hsome => hsevers ⟨k, pick, hsome⟩

/-- Every backend settles. -/
theorem exists_settled (b : Backend) : ∃ (steps : List Action) (last : Backend)
    (shown : List Effect), (∀ action ∈ steps, action.isOperation = false) ∧ last.Settled ∧
      runSteps step b steps = some (last, shown) := by
  -- by induction on what is left to do
  induction hn : b.left using Nat.strongRecOn generalizing b with
  | ind n ih =>
      subst hn
      rcases b.settled_or_goes_on with hsettled | ⟨action, haction, hsome⟩
      · exact ⟨[], b, [], by simp, hsettled, rfl⟩
      · obtain ⟨⟨next, first⟩, hstep⟩ := Option.isSome_iff_exists.mp hsome
        obtain ⟨steps, last, others, hsteps, hsettled, hrun⟩ :=
          ih next.left (step_left_lt haction hstep) next rfl
        exact ⟨action :: steps, last, first ++ others,
          List.forall_mem_cons.mpr ⟨haction, hsteps⟩, hsettled,
          run_steps_cons.mpr ⟨next, first, others, hstep, hrun, rfl⟩⟩

/-- Every operation can be taken, and it settles. -/
theorem operation_settles (b : Backend) {operation : Action}
    (h : operation.isOperation = true) : ∃ b' shown, b.Operates operation b' shown := by
  have hsome : ∃ next first, b.step operation = some (next, first) := by
    cases operation with
    | stepCall | stepSever => cases h
    | beginCall | endDial | beginSever | clientEvent | serverEvent | setHealthy =>
        exact ⟨_, _, rfl⟩
  obtain ⟨next, first, hstep⟩ := hsome
  obtain ⟨steps, last, others, hsteps, hsettled, hrun⟩ := exists_settled next
  exact ⟨last, first ++ others, h, hsettled, steps, hsteps,
    run_steps_cons.mpr ⟨next, first, others, hstep, hrun, rfl⟩⟩

/-- An operation comes first, and then what goes on by itself. -/
theorem Operates.cases {b' : Backend} {operation : Action} {shown : List Effect}
    (h : b.Operates operation b' shown) :
    ∃ (begun : Backend) (first others : List Effect) (steps : List Action),
      b.step operation = some (begun, first) ∧ (∀ action ∈ steps, action.isOperation = false) ∧
        runSteps step begun steps = some (b', others) ∧ shown = first ++ others := by
  obtain ⟨-, -, steps, hsteps, hrun⟩ := h
  obtain ⟨begun, first, others, hstep, hrest, rfl⟩ := run_steps_cons.mp hrun
  exact ⟨begun, first, others, steps, hstep, hsteps, hrest, rfl⟩

end Backend

/-!
## Sessions

A session is a call that is being served: it got past its dial and the check of its generation, and
has not returned. In a settled backend exactly the bridges of such calls are registered, which
`Consistent.sessions_eq_served` counts. While calls and severs go on, the registry may be ahead of
the gauge; `OwesRecord` says who is going to record it, `HasRecorded` that somebody has done so, and
`step_books` that every action keeps the books.
-/

namespace Gauges

/-- A record is found under its name. -/
theorem get_record (g : Gauges) (name : String) (value : Nat) :
    (g.record name value).get? name = some value := by
  obtain ⟨entries⟩ := g
  by_cases hsome : (Gauges.get? ⟨entries⟩ name).isSome = true
  · rw [record, if_pos hsome]
    simp only [get?] at hsome ⊢
    induction entries with
    | nil => cases hsome
    | cons e rest ih =>
        obtain ⟨key, old⟩ := e
        by_cases hkey : name = key
        · simp [hkey]
        · have hne : (name == key) = false := beq_false_of_ne hkey
          have hne' : (key == name) = false := beq_false_of_ne (Ne.symm hkey)
          simp only [List.lookup_cons, hne, hne', List.map_cons, Bool.false_eq_true,
            if_false] at hsome ⊢
          exact ih hsome
  · have hnone : entries.lookup name = none := Option.not_isSome_iff_eq_none.mp hsome
    rw [record, if_neg hsome]
    simp [get?, List.lookup_append, hnone]

theorem after_append (g : Gauges) (first second : List Effect) :
    g.after (first ++ second) = (g.after first).after second := by
  simp only [after, List.foldl_append]

end Gauges

namespace Call

/-- Where a call stands, whatever is on its connections. -/
inductive Standing where
  | dialing
  | failed (error : ProxyError)
  | dialed
  | bridged (id : BridgeId) (point : Point)

namespace Standing

/-- The call got past its dial and the check of its generation, and has not returned. -/
def isServed : Standing → Bool
  | bridged _ point => point.isAdmitted
  | dialing | failed _ | dialed => false

/-- The call has registered its bridge, or has taken it out again, and is going to record the number
of sessions. -/
def owesRecord : Standing → Bool
  | bridged _ .registered | bridged _ .outdated | bridged _ .withdrawn => true
  | dialing | failed _ | dialed | bridged .. => false

/-- The call has recorded the number of sessions. -/
def hasRecorded : Standing → Bool
  | bridged _ .admitted | bridged _ .copying | bridged _ .ended | bridged _ .returned => true
  | dialing | failed _ | dialed | bridged .. => false

/-- The call does nothing by itself. -/
def isIdle : Standing → Bool
  | dialing | failed _ | bridged _ .returned => true
  | dialed | bridged .. => false

end Standing

/-- Where the call stands. -/
def standing (c : Call) : Standing :=
  match c.stage with
  | .dialing _ => .dialing
  | .failed _ error => .failed error
  | .dialed .. => .dialed
  | .bridged id _ point => .bridged id point

@[simp] theorem close_bridge_standing (id : BridgeId) (c : Call) :
    (c.closeBridge id).standing = c.standing := by
  obtain ⟨generation, stage⟩ := c
  cases stage with
  | dialing | failed | dialed => rfl
  | bridged own bridge point =>
      simp only [closeBridge]
      split <;> rfl

@[simp] theorem map_client_standing (f : Duplex → Duplex) (c : Call) :
    (c.mapClient f).standing = c.standing := by
  obtain ⟨generation, stage⟩ := c
  cases stage <;> rfl

@[simp] theorem map_server_standing (f : Duplex → Duplex) (c : Call) :
    (c.mapServer f).standing = c.standing := by
  obtain ⟨generation, stage⟩ := c
  cases stage <;> rfl

theorem outcome_eq_refused {c : Call} {error : ProxyError} :
    c.outcome = .refused error ↔ c.standing = .failed error := by
  obtain ⟨generation, stage⟩ := c
  cases stage with
  | dialing | dialed => simp [outcome, standing]
  | failed => simp [outcome, standing]
  | bridged id bridge point => cases point <;> simp [outcome, standing]

theorem bridge_id_of_served {c : Call} (h : c.standing.isServed = true) :
    ∃ id bridge point, c.stage = .bridged id bridge point ∧ point.isAdmitted = true := by
  obtain ⟨generation, stage⟩ := c
  cases stage with
  | dialing | failed | dialed => cases h
  | bridged id bridge point => exact ⟨id, bridge, point, rfl, h⟩

end Call

namespace Backend

variable {b b' : Backend}

/-! ## The registry holds what is being served -/

/-- The number of calls that are being served. -/
def served (b : Backend) : Nat := b.calls.countP fun c => c.standing.isServed

/-- The bridge of a call that is being served. -/
def servedBridge? (c : Call) : Option BridgeId :=
  if c.standing.isServed then c.stage.bridgeId? else none

theorem served_bridge_isSome (c : Call) : (servedBridge? c).isSome = c.standing.isServed := by
  unfold servedBridge?
  split
  · rename_i hserved
    obtain ⟨id, bridge, point, hstage, -⟩ := Call.bridge_id_of_served hserved
    simp [hstage, Call.Stage.bridgeId?, hserved]
  · rename_i hother
    simp [hother]

theorem bridge_id_of_served_bridge {c : Call} {id : BridgeId} (h : servedBridge? c = some id) :
    c.stage.bridgeId? = some id := by
  unfold servedBridge? at h
  split at h
  · exact h
  · cases h

/-- In a settled backend exactly the bridges of calls that are being served are registered. -/
theorem Consistent.registered_iff (h : b.Consistent) (hsettled : b.Settled) (id : BridgeId) :
    id ∈ b.registry.members ↔ id ∈ b.calls.filterMap servedBridge? := by
  rw [List.mem_filterMap]
  constructor
  · intro hid
    obtain ⟨i, ⟨generation, stage⟩, hc, hown⟩ := h.owned id hid
    refine ⟨_, List.mem_of_getElem? hc, ?_⟩
    cases stage with
    | dialing | failed | dialed => cases hown
    | bridged own bridge point =>
        obtain rfl := Option.some.inj hown
        rcases h.waiting_cases hc rfl (hsettled.calls i) with ⟨rfl, -, -⟩ | ⟨rfl, -⟩
        · rfl
        · exact absurd hid ((h.custody hc rfl).gone rfl)
  · rintro ⟨c, hmem, hown⟩
    obtain ⟨i, hc⟩ := List.mem_iff_getElem?.mp hmem
    have hserved : c.standing.isServed = true := by
      rw [← served_bridge_isSome, hown]
      rfl
    obtain ⟨own, bridge, point, hstage, hadmitted⟩ := Call.bridge_id_of_served hserved
    obtain rfl : own = id := by
      simpa [servedBridge?, hserved, hstage, Call.Stage.bridgeId?] using hown
    rcases h.waiting_cases hc hstage (hsettled.calls i) with ⟨-, -, hopen⟩ | ⟨rfl, -⟩
    · exact (h.present_of_open hsettled.severs_returned hc hstage (hsettled.calls i) hopen).1
    · cases hadmitted

/-- In a settled backend there are as many sessions as calls that are being served. -/
theorem Consistent.sessions_eq_served (h : b.Consistent) (hsettled : b.Settled) :
    b.sessions = b.served := by
  have hnodup : (b.calls.filterMap servedBridge?).Nodup := by
    rw [List.Nodup, List.pairwise_filterMap, List.pairwise_iff_getElem]
    rintro i j hi hj hlt id hid other hother rfl
    exact Nat.ne_of_lt hlt (h.unique (List.getElem?_eq_getElem hi) (List.getElem?_eq_getElem hj)
      (bridge_id_of_served_bridge hid) (bridge_id_of_served_bridge hother))
  have hperm := (List.perm_ext_iff_of_nodup h.nodup hnodup).mpr (h.registered_iff hsettled)
  rw [sessions, Registry.size, hperm.length_eq, List.length_filterMap_eq_countP, served]
  congr 1
  funext c
  exact served_bridge_isSome c

/-! ## The gauge follows the registry -/

/-- Some call or sever is going to record the number of sessions. -/
def OwesRecord (b : Backend) : Prop :=
  (∃ (i : Nat) (c : Call), b.calls[i]? = some c ∧ c.standing.owesRecord = true) ∨
    ∃ (k : Nat) (ids : List BridgeId), b.severs[k]? = some (.closing ids)

/-- In a settled backend everything is recorded. -/
theorem Settled.not_owes (h : b.Settled) : ¬ b.OwesRecord := by
  rintro (⟨i, ⟨generation, stage⟩, hc, howes⟩ | ⟨k, ids, hids⟩)
  · have hnone := h.calls i
    simp only [stepCall, hc] at hnone
    cases stage with
    | dialing | failed | dialed => cases howes
    | bridged id bridge point =>
        cases point with
        | registered =>
            simp only at hnone
            split at hnone <;> cases hnone
        | outdated | withdrawn => cases hnone
        | admitted | copying | ended | returned => cases howes
  · cases h.severs_returned hids

/-- A debt stays if a call is changed that has none, or keeps it. -/
theorem OwesRecord.modify_call (h : b.OwesRecord) {i : Nat} {f : Call → Call}
    (hf : ∀ c, b.calls[i]? = some c → c.standing.owesRecord = true →
      (f c).standing.owesRecord = true) : (b.modifyCall i f).OwesRecord := by
  rcases h with ⟨j, c, hc, howes⟩ | hsever
  · by_cases hij : i = j
    · subst hij
      exact .inl ⟨i, f c, by simp [modifyCall, hc], hf c hc howes⟩
    · exact .inl ⟨j, c, by simp [modifyCall, hij, hc], howes⟩
  · exact .inr hsever

/-- A call may go into debt. -/
theorem owes_set_stage {i : Nat} {c : Call} {stage : Call.Stage} (hc : b.calls[i]? = some c)
    (howes : Call.standing { c with stage } |>.owesRecord) : (b.setStage i stage).OwesRecord :=
  .inl ⟨i, { c with stage }, by simp [setStage, modifyCall, hc], howes⟩

/-- Some call or sever has recorded the number of sessions. -/
def HasRecorded (b : Backend) : Prop :=
  (∃ (i : Nat) (c : Call), b.calls[i]? = some c ∧ c.standing.hasRecorded = true) ∨
    ∃ k : Nat, b.severs[k]? = some .returned

/-- Whether there is a record does not change with a call that makes none. -/
theorem has_recorded_modify_call {i : Nat} {f : Call → Call}
    (hf : ∀ c, b.calls[i]? = some c → (f c).standing.hasRecorded = c.standing.hasRecorded) :
    (b.modifyCall i f).HasRecorded ↔ b.HasRecorded := by
  refine or_congr (exists_congr fun j => ?_) Iff.rfl
  rw [modifyCall, List.getElem?_modify]
  by_cases hij : i = j
  · subst hij
    cases hc : b.calls[i]? with
    | none => simp
    | some c => simp [hf c hc]
  · simp [hij]

theorem has_recorded_set_stage {i : Nat} {c : Call} {stage : Call.Stage}
    (hc : b.calls[i]? = some c)
    (h : (Call.standing { c with stage }).hasRecorded = c.standing.hasRecorded) :
    (b.setStage i stage).HasRecorded ↔ b.HasRecorded :=
  has_recorded_modify_call fun d hd => by
    obtain rfl := Option.some.inj (hc.symm.trans hd)
    exact h

/-- A call may make a record. -/
theorem has_recorded_of_stage {i : Nat} {c : Call} {stage : Call.Stage}
    (hc : b.calls[i]? = some c) (h : Call.standing { c with stage } |>.hasRecorded) :
    (b.setStage i stage).HasRecorded :=
  .inl ⟨i, { c with stage }, by simp [setStage, modifyCall, hc], h⟩

/-- Whether there is a record does not change with a sever that does not return. -/
theorem has_recorded_set_sever {k : Nat} {sever next : Sever} (hk : b.severs[k]? = some sever)
    (hsever : sever ≠ .returned) (hnext : next ≠ .returned) :
    (∃ j : Nat, (b.severs.set k next)[j]? = some .returned) ↔
      ∃ j : Nat, b.severs[j]? = some .returned := by
  refine exists_congr fun j => ?_
  rw [getElem?_set_of_getElem? hk]
  by_cases hkj : k = j
  · subst hkj
    simp [hk, hsever, hnext]
  · simp [hkj]

/-- How an action keeps the books: the number of sessions is recorded, or somebody owes the record,
or the registry is as before and so is every debt. There is a record from the first one on. -/
inductive Books (b next : Backend) (effects : List Effect) : Prop where
  | recorded (h : effects = [next.gauge]) (hrecord : next.HasRecorded)
  | owed (hquiet : ∀ g : Gauges, g.after effects = g) (h : next.OwesRecord)
      (hrecord : next.HasRecorded ↔ b.HasRecorded)
  | same (hquiet : ∀ g : Gauges, g.after effects = g) (hregistry : next.registry = b.registry)
      (h : b.OwesRecord → next.OwesRecord) (hrecord : next.HasRecorded ↔ b.HasRecorded)

variable {next : Backend} {effects : List Effect}

theorem step_call_books {i : Nat} (h : b.stepCall i = some (next, effects)) :
    Books b next effects := by
  cases hc : b.calls[i]? with
  | none => simp [stepCall, hc] at h
  | some c =>
      obtain ⟨generation, stage⟩ := c
      -- a call that owes nothing leaves the debts of others alone
      have hothers : ∀ stage', (Call.standing ⟨generation, stage⟩).owesRecord = false →
          b.OwesRecord → (b.setStage i stage').OwesRecord := by
        intro stage' hnone howes
        refine howes.modify_call fun c' hc' howes' => ?_
        obtain rfl := Option.some.inj (hc.symm.trans hc')
        cases hnone.symm.trans howes'
      simp only [stepCall, hc] at h
      cases stage with
      | dialing | failed => cases h
      | dialed client server =>
          obtain ⟨rfl, rfl⟩ := Prod.mk.inj (Option.some.inj h)
          exact .owed (fun _ => rfl)
            (owes_set_stage (b := { b with registry := b.registry.create.2 }) hc rfl)
            (has_recorded_set_stage (b := { b with registry := b.registry.create.2 }) hc rfl)
      | bridged id bridge point =>
          cases point with
          | registered =>
              simp only at h
              split at h
              · obtain ⟨rfl, rfl⟩ := Prod.mk.inj (Option.some.inj h)
                exact .recorded rfl (has_recorded_of_stage hc rfl)
              · obtain ⟨rfl, rfl⟩ := Prod.mk.inj (Option.some.inj h)
                exact .owed (fun _ => rfl) (owes_set_stage hc rfl) (has_recorded_set_stage hc rfl)
          | outdated =>
              obtain ⟨rfl, rfl⟩ := Prod.mk.inj (Option.some.inj h)
              exact .owed (fun _ => rfl) (owes_set_stage (b := b.deregister id) hc rfl)
                (has_recorded_set_stage (b := b.deregister id) hc rfl)
          | withdrawn =>
              obtain ⟨rfl, rfl⟩ := Prod.mk.inj (Option.some.inj h)
              exact .recorded rfl (has_recorded_of_stage hc rfl)
          | ended =>
              obtain ⟨rfl, rfl⟩ := Prod.mk.inj (Option.some.inj h)
              exact .recorded rfl (has_recorded_of_stage (b := b.deregister id) hc rfl)
          | admitted =>
              obtain ⟨rfl, rfl⟩ := Prod.mk.inj (Option.some.inj h)
              exact .same (fun _ => rfl) rfl (hothers _ rfl) (has_recorded_set_stage hc rfl)
          | copying =>
              simp only at h
              split at h
              · obtain ⟨rfl, rfl⟩ := Prod.mk.inj (Option.some.inj h)
                exact .same (fun _ => rfl) rfl (hothers _ rfl) (has_recorded_set_stage hc rfl)
              · split at h
                · obtain ⟨rfl, rfl⟩ := Prod.mk.inj (Option.some.inj h)
                  exact .same (fun _ => rfl) rfl (hothers _ rfl) (has_recorded_set_stage hc rfl)
                · cases h
                · cases h
          | returned => cases h

theorem step_sever_books {k pick : Nat} (h : b.stepSever k pick = some (next, effects)) :
    Books b next effects := by
  unfold stepSever at h
  split at h
  · cases h
  · cases h
  · rename_i hraised
    obtain ⟨rfl, rfl⟩ := Prod.mk.inj (Option.some.inj h)
    exact .owed (fun _ => rfl) (.inr ⟨k, _, getElem?_set_self_of_getElem? hraised _⟩)
      (or_congr Iff.rfl (has_recorded_set_sever hraised nofun nofun))
  · rename_i hclosing
    obtain ⟨rfl, rfl⟩ := Prod.mk.inj (Option.some.inj h)
    exact .recorded rfl (.inr ⟨k, getElem?_set_self_of_getElem? hclosing _⟩)
  · rename_i hclosing
    split at h
    · cases h
    · obtain ⟨rfl, rfl⟩ := Prod.mk.inj (Option.some.inj h)
      refine .owed (fun _ => rfl) (.inr ⟨k, _, getElem?_set_self_of_getElem? hclosing _⟩)
        (or_congr ?_ (has_recorded_set_sever hclosing nofun nofun))
      simp

/-- Every action keeps the books. -/
theorem step_books {action : Action} (h : b.step action = some (next, effects)) :
    Books b next effects := by
  cases action with
  | stepCall i => exact step_call_books h
  | stepSever k pick => exact step_sever_books h
  | beginCall client generation =>
      obtain ⟨rfl, rfl⟩ := Prod.mk.inj (Option.some.inj h)
      refine .same (fun _ => rfl) rfl (Or.imp_left ?_) (or_congr ?_ Iff.rfl)
      · rintro ⟨i, c, hc, howes⟩
        exact ⟨i, c, List.getElem?_append_left (List.getElem?_eq_some_iff.mp hc).1 ▸ hc, howes⟩
      · -- a call that begins has recorded nothing
        refine exists_congr fun i => ?_
        rw [beginCall, List.getElem?_append]
        split
        · exact Iff.rfl
        · rename_i hge
          simp [List.getElem?_eq_none (Nat.le_of_not_lt hge), List.getElem?_singleton,
            Call.standing, Call.Standing.hasRecorded]
  | beginSever =>
      obtain ⟨rfl, rfl⟩ := Prod.mk.inj (Option.some.inj h)
      refine .same (fun _ => rfl) rfl (Or.imp_right ?_) (or_congr Iff.rfl ?_)
      · rintro ⟨k, ids, hids⟩
        exact ⟨k, ids, List.getElem?_append_left (List.getElem?_eq_some_iff.mp hids).1 ▸ hids⟩
      · simp only [← List.mem_iff_getElem?, List.mem_append, List.mem_singleton, reduceCtorEq,
          or_false]
  | endDial i result =>
      obtain ⟨rfl, rfl⟩ := Prod.mk.inj (Option.some.inj h)
      unfold endDial
      split
      · rename_i generation client hc
        have hdialing : ∀ c, b.calls[i]? = some c → c.standing.owesRecord = true → False := by
          rintro c hc' howes
          obtain rfl := Option.some.inj (hc.symm.trans hc')
          cases howes
        cases result <;> exact .same (fun _ => rfl) rfl (fun howes =>
          howes.modify_call fun c hc' howes' => (hdialing c hc' howes').elim)
          (has_recorded_set_stage hc rfl)
      · exact .same (fun _ => rfl) rfl id Iff.rfl
  | clientEvent i event =>
      obtain ⟨rfl, rfl⟩ := Prod.mk.inj (Option.some.inj h)
      exact .same (fun _ => rfl) rfl (fun howes => howes.modify_call (by simp))
        (has_recorded_modify_call (by simp))
  | serverEvent i event =>
      obtain ⟨rfl, rfl⟩ := Prod.mk.inj (Option.some.inj h)
      exact .same (fun _ => rfl) rfl (fun howes => howes.modify_call (by simp))
        (has_recorded_modify_call (by simp))
  | setHealthy healthy =>
      obtain ⟨rfl, rfl⟩ := Prod.mk.inj (Option.some.inj h)
      refine .same (fun g => ?_) rfl id Iff.rfl
      split
      · rfl
      · split <;> rfl

/-- The gauge of the backend exists once there is a record, and it shows the number of sessions, or
somebody owes a record. -/
structure Recorded (b : Backend) (g : Gauges) : Prop where
  exists_iff : (g.get? b.name).isSome = true ↔ b.HasRecorded
  value : ∀ n, g.get? b.name = some n → n = b.sessions ∨ b.OwesRecord

theorem Recorded.step {g : Gauges} (h : b.Recorded g) {action : Action}
    (hstep : b.step action = some (next, effects)) : next.Recorded (g.after effects) := by
  have hname : next.name = b.name :=
    congrArg (fun b => b.asConfigured.name) (step_as_configured hstep)
  cases step_books hstep with
  | recorded heq hrecord =>
      obtain rfl := heq
      have hget : (g.after [next.gauge]).get? next.name = some next.sessions := g.get_record _ _
      exact ⟨by simp [hget, hrecord], fun n hn => .inl (Option.some.inj (hn.symm.trans hget))⟩
  | owed hquiet howes hrecord =>
      rw [hquiet g]
      exact ⟨by rw [hname, h.exists_iff, hrecord], fun n _ => .inr howes⟩
  | same hquiet hregistry howes hrecord =>
      rw [hquiet g]
      refine ⟨by rw [hname, h.exists_iff, hrecord], fun n hn => ?_⟩
      rw [hname] at hn
      refine (h.value n hn).imp (fun heq => ?_) howes
      rw [heq, sessions, sessions, hregistry]

/-- In a settled backend there is a record once a call got past its dial or a sever has returned. -/
theorem Consistent.has_recorded_iff (h : b.Consistent) (hsettled : b.Settled) : b.HasRecorded ↔
    (∃ c ∈ b.calls, c.stage.bridgeId?.isSome = true) ∨ .returned ∈ b.severs := by
  refine or_congr ?_ List.mem_iff_getElem?.symm
  constructor
  · rintro ⟨i, ⟨generation, stage⟩, hc, hrecord⟩
    refine ⟨_, List.mem_of_getElem? hc, ?_⟩
    cases stage with
    | dialing | failed | dialed => cases hrecord
    | bridged id bridge point => rfl
  · rintro ⟨⟨generation, stage⟩, hmem, hbridge⟩
    obtain ⟨i, hc⟩ := List.mem_iff_getElem?.mp hmem
    refine ⟨i, _, hc, ?_⟩
    cases stage with
    | dialing | failed | dialed => cases hbridge
    | bridged id bridge point =>
        rcases h.waiting_cases hc rfl (hsettled.calls i) with ⟨rfl, -⟩ | ⟨rfl, -⟩
        · rfl
        · rfl

end Backend

end GaleraProxy
