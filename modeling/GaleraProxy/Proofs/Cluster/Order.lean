import GaleraProxy.Cluster.Step
import GaleraProxy.Proofs.Channel
import GaleraProxy.Proofs.Cluster.Toggling

/-!
# Decisions arrive in the order in which they are recorded

Calls of the switch wait for their turn, and the one that has it may wait for a subscriber.
`decisions_in_order` says what every subscriber has got by any moment of any run, and what the
switch shows.
-/

namespace GaleraProxy.Cluster

variable {c c' : Cluster} {signals more : List Signal}

/-! ## Signals of several steps -/

@[simp] theorem calls_append (first others : List Signal) :
    calls (first ++ others) = calls first ++ calls others :=
  List.filterMap_append

@[simp] theorem decisions_append (first others : List Signal) :
    decisions (first ++ others) = decisions first ++ decisions others :=
  List.filterMap_append

@[simp] theorem returns_append (first others : List Signal) :
    returns (first ++ others) = returns first ++ returns others :=
  List.filterMap_append

@[simp] theorem taken_by_append (place : Nat) (first others : List Signal) :
    takenBy place (first ++ others) = takenBy place first ++ takenBy place others :=
  List.filterMap_append

/-! ## The calls that have not returned -/

/-- The calls that have been recorded come before those that wait for their turn. -/
theorem Orderly.pending_eq (h : c.Orderly) : c.pending = c.recorded ++ c.queued := by
  unfold recorded queued
  cases hpending : c.pending with
  | nil => rfl
  | cons head rest =>
      have hothers : ∀ t ∈ rest, t.served = none := fun t ht => h.others (by rwa [hpending])
      have hnone : rest.filter (·.served.isSome) = [] :=
        List.filter_eq_nil_iff.mpr fun t ht => by simp [hothers t ht]
      have hall : rest.filter (·.served.isNone) = rest :=
        List.filter_eq_self.mpr fun t ht => by simp [hothers t ht]
      cases hserved : head.served with
      | none => simp [hserved, hnone, hall]
      | some n => simp [hserved, hnone, hall]

/-- Once the first call has been recorded, it is the only one. -/
theorem Orderly.recorded_eq (h : c.Orderly) {t : Toggle} {rest : List Toggle}
    (hpending : c.pending = t :: rest) (hserved : t.served.isSome) : c.recorded = [t] := by
  have hnone : rest.filter (·.served.isSome) = [] :=
    List.filter_eq_nil_iff.mpr fun u hu => by simp [h.others (t := u) (by rwa [hpending])]
  rw [recorded, hpending]
  simp [hserved, hnone]

/-- No call has been recorded while the first one waits for its turn. -/
theorem Orderly.recorded_eq_nil (h : c.Orderly) (hhanding : c.handing = none) : c.recorded = [] := by
  cases hpending : c.pending with
  | nil => rw [recorded, hpending, List.filter_nil]
  | cons t rest =>
      have hserved : t.served = none := by simpa [handing, hpending] using hhanding
      refine List.filter_eq_nil_iff.mpr fun u hu => ?_
      rw [hpending] at hu
      rcases List.mem_cons.mp hu with rfl | hu
      · simp [hserved]
      · simp [h.others (t := u) (by rwa [hpending])]

/-- The only call that has been recorded is the one whose decision is handed on. -/
theorem Orderly.recorded_of_handing (h : c.Orderly) {n : Nat} (hhanding : c.handing = some n) :
    ∃ t, c.recorded = [t] := by
  cases hpending : c.pending with
  | nil => simp [handing, hpending] at hhanding
  | cons t rest =>
      have hserved : t.served = some n := by simpa [handing, hpending] using hhanding
      exact ⟨t, h.recorded_eq hpending (by rw [hserved]; rfl)⟩

/-! ## What everybody has been told -/

/-- The switch shows the latest decision, calls are recorded and return in the order in which they
have begun, and every subscriber has got the decisions in the order in which they were recorded. -/
structure Told (c : Cluster) (signals : List Signal) : Prop where
  orderly : c.Orderly
  shown : (decisions signals).getLastD ⟨true, ""⟩ = c.decision
  called : calls signals = returns signals ++ c.pending.map Toggle.decision
  decided : decisions signals = returns signals ++ c.recorded.map Toggle.decision
  delivered : ∀ place, Delivered c.subscribers c.handing ((decisions signals).map (·.enabled)) place
    (takenBy place signals)

theorem start_told (subscribers : Nat) : (start subscribers).Told [] where
  orderly := start_orderly subscribers
  shown := rfl
  called := rfl
  decided := rfl
  delivered := fun place channel hchannel _ => by
    obtain rfl := List.eq_of_mem_replicate (List.mem_of_getElem? hchannel)
    exact ⟨fun _ => rfl, fun _ _ _ => rfl⟩

/-- A call that begins waits for its turn. -/
theorem Told.call (h : c.Told signals) (d : Decision) :
    (c.beginToggle d.enabled d.note).Told (signals ++ [.called d]) := by
  have hcalls : calls (signals ++ [.called d]) = calls signals ++ [d] := calls_append ..
  have hdecisions : decisions (signals ++ [.called d]) = decisions signals :=
    (decisions_append ..).trans (List.append_nil _)
  have hreturns : returns (signals ++ [.called d]) = returns signals :=
    (returns_append ..).trans (List.append_nil _)
  have hrecorded : (c.beginToggle d.enabled d.note).recorded = c.recorded := by
    simp [recorded, beginToggle]
  constructor
  case orderly => exact h.orderly.begin_toggle d.enabled d.note
  case shown => rw [hdecisions, h.shown]; rfl
  case called =>
    rw [hcalls, hreturns, h.called, beginToggle, List.map_append, List.append_assoc]
    rfl
  case decided => rw [hdecisions, hreturns, hrecorded, h.decided]
  case delivered =>
    intro place
    have htaken : takenBy place (signals ++ [.called d]) = takenBy place signals :=
      (taken_by_append ..).trans (List.append_nil _)
    rw [begin_toggle_handing, hdecisions, htaken]
    exact h.delivered place

/-- A call is recorded when it has its turn. Nobody has been told of its decision. -/
theorem Told.record (h : c.Told signals) {enabled : Bool} {note : String} {rest : List Toggle}
    (hpending : c.pending = ⟨enabled, note, none⟩ :: rest) {now : Timestamp}
    (horderly : Orderly { c.record enabled note now with
      pending := ⟨enabled, note, some 0⟩ :: rest }) :
    Told { c.record enabled note now with pending := ⟨enabled, note, some 0⟩ :: rest }
      (signals ++ [.recorded ⟨enabled, note⟩]) := by
  have hcalls : calls (signals ++ [.recorded ⟨enabled, note⟩]) = calls signals :=
    (calls_append ..).trans (List.append_nil _)
  have hdecisions : decisions (signals ++ [.recorded ⟨enabled, note⟩]) =
      decisions signals ++ [⟨enabled, note⟩] := decisions_append ..
  have hreturns : returns (signals ++ [.recorded ⟨enabled, note⟩]) = returns signals :=
    (returns_append ..).trans (List.append_nil _)
  have hhanding : c.handing = none := by rw [handing, hpending]; rfl
  constructor
  case orderly => exact horderly
  case shown => rw [hdecisions, List.getLastD_concat]; rfl
  case called =>
    rw [hcalls, hreturns, h.called, hpending]
    rfl
  case decided =>
    rw [hdecisions, hreturns, h.decided, h.orderly.recorded_eq_nil hhanding,
      horderly.recorded_eq rfl rfl, List.map_nil, List.append_nil]
    rfl
  case delivered =>
    intro place
    have htaken : takenBy place (signals ++ [.recorded ⟨enabled, note⟩]) = takenBy place signals :=
      (taken_by_append ..).trans (List.append_nil _)
    have hbefore := h.delivered place
    rw [hhanding] at hbefore
    rw [hdecisions, htaken, List.map_append]
    exact hbefore.begin_broadcast enabled

/-- While a decision is handed on, only the channels and the number of those served change. -/
theorem Told.hand_on (h : c.Told signals) {t : Toggle} {n : Nat} {rest : List Toggle}
    (hpending : c.pending = t :: rest) (hserved : t.served = some n)
    {subscribers : List (Channel Bool)}
    (horderly : Orderly { c with
      subscribers, pending := ⟨t.enabled, t.note, some (n + 1)⟩ :: rest })
    (hdelivered : ∀ {values taken place}, Delivered c.subscribers (some n) (values ++ [t.enabled])
      place taken → Delivered subscribers (some (n + 1)) (values ++ [t.enabled]) place taken) :
    Told { c with subscribers, pending := ⟨t.enabled, t.note, some (n + 1)⟩ :: rest } signals := by
  have hrecorded : c.recorded = [t] := h.orderly.recorded_eq hpending (by rw [hserved]; rfl)
  constructor
  case orderly => exact horderly
  case shown => exact h.shown
  case called =>
    rw [h.called, hpending]
    rfl
  case decided =>
    rw [h.decided, hrecorded, horderly.recorded_eq rfl rfl]
    rfl
  case delivered =>
    intro place
    have hbefore := h.delivered place
    have hhanding : c.handing = some n := by rw [handing, hpending]; exact hserved
    rw [hhanding, h.decided, hrecorded, List.map_append] at hbefore
    rw [h.decided, hrecorded, List.map_append]
    exact hdelivered hbefore

/-- A call returns once everybody has been told of its decision. -/
theorem Told.return (h : c.Told signals) {enabled : Bool} {note : String} {n : Nat}
    {rest : List Toggle} (hpending : c.pending = ⟨enabled, note, some n⟩ :: rest)
    (hover : c.subscribers.length ≤ n) (horderly : Orderly { c with pending := rest }) :
    Told { c with pending := rest } (signals ++ [.returned ⟨enabled, note⟩]) := by
  have hcalls : calls (signals ++ [.returned ⟨enabled, note⟩]) = calls signals :=
    (calls_append ..).trans (List.append_nil _)
  have hdecisions : decisions (signals ++ [.returned ⟨enabled, note⟩]) = decisions signals :=
    (decisions_append ..).trans (List.append_nil _)
  have hreturns : returns (signals ++ [.returned ⟨enabled, note⟩]) =
      returns signals ++ [⟨enabled, note⟩] := returns_append ..
  have hrest : handing { c with pending := rest } = none := h.orderly.handing_rest hpending
  constructor
  case orderly => exact horderly
  case shown => rw [hdecisions, h.shown]; rfl
  case called =>
    rw [hcalls, hreturns, h.called, hpending, List.append_assoc]
    rfl
  case decided =>
    rw [hdecisions, hreturns, h.decided, h.orderly.recorded_eq hpending rfl,
      horderly.recorded_eq_nil hrest, List.map_nil, List.append_nil]
    rfl
  case delivered =>
    intro place
    have htaken : takenBy place (signals ++ [.returned ⟨enabled, note⟩]) = takenBy place signals :=
      (taken_by_append ..).trans (List.append_nil _)
    have hbefore := h.delivered place
    have hhanding : c.handing = some n := by rw [handing, hpending]; rfl
    rw [hhanding] at hbefore
    rw [hrest, hdecisions, htaken]
    exact hbefore.end_broadcast hover

/-- The call that has its turn goes on. -/
theorem Told.go_on (h : c.Told signals) {now : Timestamp} {effects : List Effect}
    (hstep : c.step now = some (c', effects)) : c'.Told (signals ++ c.going) := by
  have horderly : c'.Orderly := h.orderly.step hstep
  obtain ⟨enabled, note, rest, hcases⟩ := step_cases hstep
  rcases hcases with ⟨hpending, rfl⟩ | ⟨n, hpending, hcases⟩
  · have hgoing : c.going = [.recorded ⟨enabled, note⟩] := by rw [going, hpending]; rfl
    rw [hgoing]
    exact h.record hpending horderly
  · rcases hcases with ⟨hover, rfl⟩ | ⟨channel, hchannel, hcases⟩
    · have hgoing : c.going = [.returned ⟨enabled, note⟩] := by
        simp [going, hpending, Toggle.decision, hover]
      rw [hgoing]
      exact h.return hpending hover horderly
    · have hlt : n < c.subscribers.length := (List.getElem?_eq_some_iff.mp hchannel).1
      have hgoing : c.going = [] := by simp [going, hpending, hlt]
      rw [hgoing, List.append_nil]
      rcases hcases with ⟨hgone, rfl⟩ | ⟨-, hempty, rfl⟩
      · exact h.hand_on hpending rfl horderly fun hdelivered => hdelivered.pass hchannel hgone
      · exact h.hand_on hpending rfl horderly fun hdelivered => hdelivered.hand hchannel hempty

/-- A subscriber that takes a decision leaves the rest as it is. -/
theorem Told.take (h : c.Told signals) {place : Nat} {channel : Channel Bool} {enabled : Bool}
    (hchannel : c.subscribers[place]? = some channel) (hwaiting : channel.waiting = some enabled) :
    (c.setSubscriber place { channel with waiting := none }).Told
      (signals ++ [.taken place enabled]) := by
  have hcalls : calls (signals ++ [.taken place enabled]) = calls signals :=
    (calls_append ..).trans (List.append_nil _)
  have hdecisions : decisions (signals ++ [.taken place enabled]) = decisions signals :=
    (decisions_append ..).trans (List.append_nil _)
  have hreturns : returns (signals ++ [.taken place enabled]) = returns signals :=
    (returns_append ..).trans (List.append_nil _)
  constructor
  case orderly => exact ⟨h.orderly.first, h.orderly.others⟩
  case shown => rw [hdecisions, h.shown]; rfl
  case called => rw [hcalls, hreturns, h.called]; rfl
  case decided => rw [hdecisions, hreturns, h.decided]; rfl
  case delivered =>
    intro other
    rw [hdecisions, taken_by_append]
    by_cases hplace : place = other
    · subst other
      have htaken : takenBy place [.taken place enabled] = [enabled] := by simp [takenBy]
      rw [htaken]
      exact (h.delivered place).take hchannel hwaiting
    · have htaken : takenBy other [.taken place enabled] = [] := by simp [takenBy, hplace]
      rw [htaken, List.append_nil]
      exact (h.delivered other).of_other (List.getElem?_set_ne hplace)

/-- Every step tells what it should. -/
theorem Told.act (h : c.Told signals) {now : Timestamp} {action : Action}
    (hact : c.act now action = some (c', more)) : c'.Told (signals ++ more) := by
  cases action with
  | call d =>
      obtain ⟨rfl, rfl⟩ := Prod.mk.inj (Option.some.inj hact)
      exact h.call d
  | goOn =>
      obtain ⟨⟨next, effects⟩, hstep, heq⟩ := Option.map_eq_some_iff.mp hact
      obtain ⟨rfl, rfl⟩ := Prod.mk.inj heq
      exact h.go_on hstep
  | take place =>
      simp only [Cluster.act] at hact
      split at hact
      · rename_i enabled channel' hreceive
        obtain ⟨rfl, rfl⟩ := Prod.mk.inj (Option.some.inj hact)
        obtain ⟨channel, hchannel, hvalue⟩ := Option.map_eq_some_iff.mp hreceive
        obtain ⟨hwaiting, rfl⟩ := Channel.receive_value hvalue
        exact h.take (Option.filter_eq_some_iff.mp hchannel).1 hwaiting
      · cases hact
  | leave place =>
      obtain ⟨rfl, rfl⟩ := Prod.mk.inj (Option.some.inj hact)
      rw [List.append_nil]
      exact { h with
        orderly := ⟨h.orderly.first, h.orderly.others⟩
        delivered := fun other => (h.delivered other).leave place }
  | elect active =>
      obtain ⟨rfl, rfl⟩ := Prod.mk.inj (Option.some.inj hact)
      rw [List.append_nil]
      exact { h with orderly := ⟨h.orderly.first, h.orderly.others⟩ }

/-! ## Runs -/

/-- The call that has its turn waits only for somebody who is still there and has not taken an
earlier decision. -/
theorem act_go_on_eq_none_iff (now : Timestamp) : c.act now .goOn = none ↔
    c.pending = [] ∨ ∃ n channel, c.handing = some n ∧ c.subscribers[n]? = some channel ∧
      channel.listened = true ∧ channel.waiting.isSome := by
  rw [act, Option.map_eq_none_iff]
  cases hpending : c.pending with
  | nil => simp [step, hpending]
  | cons t rest =>
      obtain ⟨enabled, note, served⟩ := t
      have hhanding : c.handing = served := by rw [handing, hpending]; rfl
      cases served with
      | none => simp [step, hpending, hhanding]
      | some n =>
          by_cases hlt : n < c.subscribers.length
          · have hchannel : c.subscribers[n]? = some c.subscribers[n] := List.getElem?_eq_getElem hlt
            have hwaits := broadcast_step_eq_none_iff (a := enabled) hchannel
            cases hnext : broadcastStep c.subscribers n enabled with
            | none => simp [step, hpending, hhanding, hlt, hnext, hwaits.mp hnext]
            | some next =>
                have hfree : ¬ (c.subscribers[n].listened = true ∧
                    c.subscribers[n].waiting.isSome) := by
                  intro hfull
                  rw [hwaits.mpr hfull] at hnext
                  cases hnext
                simpa [step, hpending, hhanding, hlt, hnext] using hfree
          · simp [step, hpending, hhanding, hlt]

/-- A call has returned only if everybody who is still there has got its decision. -/
theorem Told.returned_got (h : c.Told signals) {place : Nat} {channel : Channel Bool}
    (hchannel : c.subscribers[place]? = some channel) (hlistened : channel.listened = true) :
    (returns signals).map (·.enabled) <+: takenBy place signals ++ channel.waiting.toList := by
  rcases (h.delivered place).eq_or hchannel hlistened with ⟨hall, -⟩ | ⟨n, hhanding, -, hbutOne⟩
  · rw [hall, h.decided, List.map_append]
    exact List.prefix_append _ _
  · -- the latest decision has been recorded and its call has not returned
    obtain ⟨t, ht⟩ := h.orderly.recorded_of_handing hhanding
    rw [h.decided, ht, List.map_append, List.map_singleton, List.map_singleton,
      List.dropLast_concat] at hbutOne
    exact hbutOne ▸ List.prefix_rfl

/-- At most one call has been recorded and has not returned. -/
theorem Told.one_at_a_time (h : c.Told signals) :
    returns signals <+: decisions signals ∧
      (decisions signals).length ≤ (returns signals).length + 1 := by
  rw [h.decided, List.length_append, List.length_map]
  refine ⟨List.prefix_append _ _, ?_⟩
  cases hhanding : c.handing with
  | none => simp [h.orderly.recorded_eq_nil hhanding]
  | some n =>
      obtain ⟨t, ht⟩ := h.orderly.recorded_of_handing hhanding
      simp [ht]

/-- Once no call is pending and nothing waits, everybody who is still there has taken all decisions.
-/
theorem Told.taken_eq (h : c.Told signals) (hpending : c.pending = []) {place : Nat}
    {channel : Channel Bool} (hchannel : c.subscribers[place]? = some channel)
    (hlistened : channel.listened = true) (hempty : channel.waiting = none) :
    takenBy place signals = (decisions signals).map (·.enabled) := by
  have hhanding : c.handing = none := by rw [handing, hpending]; rfl
  have hdelivered := h.delivered place
  rw [hhanding, Delivered.none_iff] at hdelivered
  have hall := hdelivered hchannel hlistened
  rwa [hempty, Option.toList_none, List.append_nil] at hall

/-- For every run of the switch, whatever its subscribers do. Calls are recorded one at a time in
the order in which they began, each only after the one before it has returned, and the switch shows
the latest one that has been recorded. What a subscriber who is still there took, followed by what
waits for it, begins the recorded decisions in this order and has in it those of all calls that have
returned; of two of them the earlier one is ahead by one decision at most. Once no call is pending
and nothing waits, whoever is still there has taken all decisions, the last of which is shown. Only
somebody who is still there holds a call up. -/
theorem decisions_in_order (subscribers : Nat) (actions : List (Timestamp × Action)) {c : Cluster}
    {signals : List Signal} (hrun : (start subscribers).run actions = some (c, signals)) :
    (calls signals = decisions signals ++ c.queued.map Toggle.decision ∧
      returns signals <+: decisions signals ∧
      (decisions signals).length ≤ (returns signals).length + 1) ∧
    (c.decision = (decisions signals).getLastD ⟨true, ""⟩ ∧
      ∀ time, ∃ active updated, c.toJson time = .object [("activeBackend", active),
        ("trafficEnabled", .bool c.decision.enabled), ("message", .text c.decision.note),
        ("lastUpdated", updated)]) ∧
    (∀ place channel, c.subscribers[place]? = some channel → channel.listened = true →
      takenBy place signals ++ channel.waiting.toList <+: (decisions signals).map (·.enabled) ∧
      (returns signals).map (·.enabled) <+: takenBy place signals ++ channel.waiting.toList) ∧
    (∀ first second channel channel', first < second →
      c.subscribers[first]? = some channel → channel.listened = true →
      c.subscribers[second]? = some channel' → channel'.listened = true →
      takenBy second signals ++ channel'.waiting.toList <+:
        takenBy first signals ++ channel.waiting.toList ∧
      (takenBy first signals ++ channel.waiting.toList).length ≤
        (takenBy second signals ++ channel'.waiting.toList).length + 1) ∧
    (c.pending = [] → (∀ channel ∈ c.subscribers, channel.waiting = none) →
      ∀ place channel, c.subscribers[place]? = some channel → channel.listened = true →
      takenBy place signals = (decisions signals).map (·.enabled) ∧
      ∀ enabled, (takenBy place signals).getLast? = some enabled →
        enabled = c.decision.enabled) ∧
    ∀ now, c.act now .goOn = none ↔ c.pending = [] ∨
      ∃ n channel, c.handing = some n ∧ c.subscribers[n]? = some channel ∧
        channel.listened = true ∧ channel.waiting.isSome := by
  have h : c.Told signals :=
    run_steps_induction (fun h hact => h.act hact) hrun (start_told subscribers)
  refine ⟨⟨?_, h.one_at_a_time⟩, ⟨h.shown.symm, fun time => ⟨_, _, rfl⟩⟩, ?_, ?_, ?_,
    fun now => act_go_on_eq_none_iff now⟩
  · rw [h.called, h.decided, h.orderly.pending_eq, List.map_append, List.append_assoc]
  · intro place channel hchannel hlistened
    exact ⟨(h.delivered place).isPrefix hchannel hlistened, h.returned_got hchannel hlistened⟩
  · intro first second channel channel' hlt hchannel hlistened hchannel' hlistened'
    exact (h.delivered first).ahead (h.delivered second) hlt hchannel hlistened hchannel' hlistened'
  · intro hpending hempty place channel hchannel hlistened
    have htaken := h.taken_eq hpending hchannel hlistened
      (hempty channel (List.mem_of_getElem? hchannel))
    refine ⟨htaken, fun enabled hlast => ?_⟩
    rw [htaken, List.getLast?_map] at hlast
    obtain ⟨d, hd, rfl⟩ := Option.map_eq_some_iff.mp hlast
    rw [← h.shown, List.getLastD_eq_getLast?, hd]
    rfl

/-- Traffic is disabled and enabled again by two calls, of which the second waits for a subscriber
that takes nothing. -/
def twoCalls : List (Timestamp × Action) :=
  [(⟨10, 0⟩, .call ⟨false, "upgrade"⟩), (⟨10, 0⟩, .call ⟨true, ""⟩), (⟨10, 0⟩, .goOn),
   (⟨10, 0⟩, .goOn), (⟨10, 0⟩, .goOn), (⟨10, 0⟩, .goOn), (⟨11, 0⟩, .goOn), (⟨11, 0⟩, .take 0),
   (⟨11, 0⟩, .goOn)]

/-- The subscribers take what they are handed, and the second call returns. -/
def takingAll : List (Timestamp × Action) :=
  [(⟨12, 0⟩, .take 1), (⟨12, 0⟩, .goOn), (⟨12, 0⟩, .goOn), (⟨13, 0⟩, .take 1), (⟨13, 0⟩, .take 0)]

/-- While the second call waits, its decision is shown and the earlier subscriber has got it. -/
theorem decisions_in_order_of_two_calls :
    (∃ (c : Cluster) (signals : List Signal), (start 2).run twoCalls = some (c, signals) ∧
      c.act ⟨12, 0⟩ .goOn = none ∧ c.decision = ⟨true, ""⟩ ∧
      takenBy 1 signals ++ [false] <+: takenBy 0 signals ++ [true] ∧
      (takenBy 0 signals ++ [true]).length ≤ (takenBy 1 signals ++ [false]).length + 1) ∧
    ∃ (c : Cluster) (signals : List Signal),
      (start 2).run (twoCalls ++ takingAll) = some (c, signals) ∧
      c.pending = [] ∧ takenBy 1 signals = (decisions signals).map (·.enabled) ∧
      returns signals <+: decisions signals ∧ takenBy 0 signals = takenBy 1 signals := by
  constructor
  · have hend : ((start 2).run twoCalls).any (fun last =>
        last.1.handing = some 1 ∧ decisions last.2 = [⟨false, "upgrade"⟩, ⟨true, ""⟩] ∧
        last.1.subscribers = [⟨some true, true, true⟩, ⟨some false, true, true⟩]) = true := by
      decide +kernel
    obtain ⟨⟨c, signals⟩, hrun, hlast⟩ := (Option.any_eq_true _ _).mp hend
    obtain ⟨hhanding, hdecisions, hsubscribers⟩ := of_decide_eq_true hlast
    obtain ⟨-, ⟨hshown, -⟩, -, hahead, -, hwaits⟩ := decisions_in_order 2 twoCalls hrun
    have hfirst := congrArg (·[0]?) hsubscribers
    have hsecond := congrArg (·[1]?) hsubscribers
    refine ⟨c, signals, hrun, ?_, ?_, hahead 0 1 _ _ (by decide) hfirst rfl hsecond rfl⟩
    · exact (hwaits ⟨12, 0⟩).mpr (.inr ⟨1, _, hhanding, hsecond, rfl, rfl⟩)
    · rw [hshown, hdecisions]
      rfl
  · have hend : ((start 2).run (twoCalls ++ takingAll)).any (fun last =>
        last.1.pending = [] ∧
        last.1.subscribers = [⟨none, true, true⟩, ⟨none, true, true⟩]) = true := by
      decide +kernel
    obtain ⟨⟨c, signals⟩, hrun, hlast⟩ := (Option.any_eq_true _ _).mp hend
    obtain ⟨hpending, hsubscribers⟩ : c.pending = [] ∧
        c.subscribers = [⟨none, true, true⟩, ⟨none, true, true⟩] := of_decide_eq_true hlast
    obtain ⟨⟨-, hreturned, -⟩, -, -, -, htaken, -⟩ := decisions_in_order 2 _ hrun
    have hempty : ∀ channel ∈ c.subscribers, channel.waiting = none := by simp [hsubscribers]
    have hfirst := htaken hpending hempty 0 _ (congrArg (·[0]?) hsubscribers) rfl
    have hsecond := htaken hpending hempty 1 _ (congrArg (·[1]?) hsubscribers) rfl
    exact ⟨c, signals, hrun, hpending, hsecond.1, hreturned, hfirst.1.trans hsecond.1.symm⟩

end GaleraProxy.Cluster
