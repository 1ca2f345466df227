import GaleraProxy.Proofs.Cluster.Order
import Mathlib.Data.List.Induction

/-!
# A call of the switch that is alone

While no other call is under way, a call of the switch is recorded at once and handed to everybody
who listens. `complete_alone` computes what it leads to if all subscribers take what they are handed
in between, and `handed_alone` says what they have got after any run in which the call has returned,
whenever they took it.
-/

namespace GaleraProxy.Cluster

variable {c c' : Cluster}

/-! ## All subscribers take what they are handed -/

/-- A channel after a value has been handed to the one who listens, if somebody does. -/
def handed (enabled : Bool) (channel : Channel Bool) : Channel Bool :=
  if channel.listened then { channel with waiting := some enabled } else channel

/-- A channel from which the value that waits has been taken. -/
def emptied (channel : Channel Bool) : Channel Bool := { channel with waiting := none }

/-- What waits in channels, with their places. -/
def waitingAt (channels : List (Channel Bool)) : List (Nat × Bool) :=
  channels.zipIdx.filterMap fun (channel, i) => channel.waiting.map fun b => (i, b)

/-- The flags that were taken at a place. -/
def takenAt (place : Nat) (taken : List (Nat × Bool)) : List Bool :=
  taken.filterMap fun (i, b) => if i = place then some b else none

theorem taken_at_append (place : Nat) (first others : List (Nat × Bool)) :
    takenAt place (first ++ others) = takenAt place first ++ takenAt place others :=
  List.filterMap_append

/-- At a place waits what is in the channel at that place. -/
theorem taken_at_waiting (channels : List (Channel Bool)) (place : Nat) :
    takenAt place (waitingAt channels) = (channels[place]?.bind (·.waiting)).toList := by
  induction channels using List.reverseRecOn with
  | nil => rfl
  | append_singleton channels channel ih =>
      have hlast : takenAt place (waitingAt (channels ++ [channel])) =
          takenAt place (waitingAt channels) ++
            if channels.length = place then channel.waiting.toList else [] := by
        cases hwaiting : channel.waiting with
        | none => simp [waitingAt, List.zipIdx_append, hwaiting]
        | some b =>
            rw [waitingAt, List.zipIdx_append, List.filterMap_append, taken_at_append]
            by_cases hplace : channels.length = place <;> simp [takenAt, waitingAt, hwaiting, hplace]
      rw [hlast, ih]
      rcases Nat.lt_trichotomy place channels.length with hlt | heq | hgt
      · rw [List.getElem?_append_left hlt, if_neg (Nat.ne_of_gt hlt), List.append_nil]
      · subst heq
        simp
      · have hbeyond : channels.length + 1 ≤ place := hgt
        rw [List.getElem?_eq_none (Nat.le_of_lt hgt), if_neg (Nat.ne_of_lt hgt),
          List.getElem?_eq_none (by simpa using hbeyond)]
        rfl

/-- The call that has its turn is handed to the next subscriber if no other value waits there. -/
theorem step_hand {enabled : Bool} {note : String} {n : Nat} {rest : List Toggle}
    (hpending : c.pending = ⟨enabled, note, some n⟩ :: rest) {channel : Channel Bool}
    (hchannel : c.subscribers[n]? = some channel) (hempty : channel.waiting = none)
    (now : Timestamp) :
    c.step now = some ({ c with
      subscribers := c.subscribers.set n (handed enabled channel)
      pending := ⟨enabled, note, some (n + 1)⟩ :: rest }, []) := by
  obtain ⟨hlt, hget⟩ := List.getElem?_eq_some_iff.mp hchannel
  have hbroadcast : broadcastStep c.subscribers n enabled =
      some (c.subscribers.set n (handed enabled channel), n + 1) := by
    rw [broadcastStep, hchannel]
    cases hlistened : channel.listened with
    | true => simp [Channel.send, handed, hlistened, hempty]
    | false =>
        have hset : c.subscribers.set n channel = c.subscribers := hget ▸ List.set_getElem_self hlt
        simp [Channel.send, handed, hlistened, hset]
  unfold step
  simp only [hpending, if_pos hlt, hbroadcast]

/-- A call that has been recorded is handed to all that come after those served before, and
returns. -/
theorem runFor_hand (enabled : Bool) (note : String) (rest : List Toggle) (now : Timestamp)
    (before others : List (Channel Bool)) (hempty : ∀ channel ∈ others, channel.waiting = none)
    (c : Cluster) :
    runFor (others.length + 1) now { c with
        subscribers := before ++ others
        pending := ⟨enabled, note, some before.length⟩ :: rest } =
      ({ c with subscribers := before ++ others.map (handed enabled), pending := rest }, []) := by
  induction others generalizing before with
  | nil =>
      rw [List.append_nil, List.length_nil, runFor]
      simp [step, runFor]
  | cons channel others ih =>
      rw [List.forall_mem_cons] at hempty
      have hchannel : (before ++ channel :: others)[before.length]? = some channel := by simp
      have hset : (before ++ channel :: others).set before.length (handed enabled channel) =
          before ++ [handed enabled channel] ++ others := by simp
      rw [List.length_cons, runFor, step_hand rfl hchannel hempty.1]
      have hrest := ih (before ++ [handed enabled channel]) hempty.2
      rw [List.length_append, List.length_singleton] at hrest
      simp only [hset, hrest, List.map_cons]
      rw [List.append_assoc, List.singleton_append, List.append_nil]

/-- A call that is alone is recorded, handed to everybody who listens, and returns, if nothing waits
anywhere. -/
theorem settle_alone {enabled : Bool} {note : String}
    (hpending : c.pending = [⟨enabled, note, none⟩])
    (hempty : ∀ channel ∈ c.subscribers, channel.waiting = none) (now : Timestamp) :
    c.settle now =
      ({ c.record enabled note now with
          subscribers := c.subscribers.map (handed enabled), pending := [] },
        [.log (.trafficUpdated enabled note)]) := by
  have hbudget : c.pending.length * (c.subscribers.length + 2) = c.subscribers.length + 1 + 1 := by
    rw [hpending, List.length_singleton, Nat.one_mul]
  have hrecord : c.step now =
      some ({ c.record enabled note now with pending := [⟨enabled, note, some 0⟩] },
        [.log (.trafficUpdated enabled note)]) := by
    simp only [step, hpending]
  have hhand := runFor_hand enabled note [] now [] c.subscribers
    hempty (c.record enabled note now)
  rw [settle, hbudget, runFor, hrecord]
  simp only [List.nil_append, List.length_nil] at hhand
  have hsame : ({ c.record enabled note now with
      pending := [⟨enabled, note, some 0⟩] } : Cluster) =
      { c.record enabled note now with
        subscribers := c.subscribers, pending := [⟨enabled, note, some 0⟩] } := rfl
  simp only [hsame, hhand, List.append_nil]

theorem emptied_idem : emptied ∘ emptied = emptied := rfl

theorem emptied_comp_handed (enabled : Bool) : emptied ∘ handed enabled = emptied := by
  funext channel
  by_cases hlistened : channel.listened = true <;> simp [handed, emptied, hlistened]

@[simp] theorem waiting_at_emptied (channels : List (Channel Bool)) :
    waitingAt (channels.map emptied) = [] := by
  simp [waitingAt, emptied, List.zipIdx_map]

theorem drain_eq (c : Cluster) :
    c.drain = (waitingAt c.subscribers, { c with subscribers := c.subscribers.map emptied }) := rfl

/-- Without a call under way nothing is handed on. -/
theorem settle_idle (hidle : c.pending = []) (now : Timestamp) : c.settle now = (c, []) := by
  rw [settle, hidle, List.length_nil, Nat.zero_mul]
  rfl

/-- Without a call under way the subscribers take what waits, and further rounds find nothing. -/
theorem completeFor_idle (hidle : c.pending = []) (n : Nat) (now : Timestamp) :
    completeFor (n + 1) now c =
      ({ c with subscribers := c.subscribers.map emptied }, [], waitingAt c.subscribers) := by
  induction n generalizing c with
  | zero =>
      rw [completeFor, drain_eq]
      simp only [settle_idle (c := { c with subscribers := c.subscribers.map emptied }) hidle,
        completeFor, List.append_nil]
  | succ n ih =>
      rw [completeFor, drain_eq]
      simp only [settle_idle (c := { c with subscribers := c.subscribers.map emptied }) hidle,
        ih (c := { c with subscribers := c.subscribers.map emptied }) hidle, List.map_map,
        emptied_idem, waiting_at_emptied, List.append_nil]

/-- A call that is alone returns if everybody takes what he is handed: its decision is recorded, and
besides what waited before everybody who listens has taken its flag. -/
theorem complete_alone (halone : c.pending = []) (enabled : Bool) (note : String)
    (now : Timestamp) :
    (c.beginToggle enabled note).complete now =
      ({ c.record enabled note now with
          subscribers := c.subscribers.map emptied, called := c.called + 1 },
        [.log (.trafficUpdated enabled note)],
        waitingAt c.subscribers ++
          waitingAt ((c.subscribers.map emptied).map (handed enabled))) := by
  -- the first round empties the channels and ends the call, the second one takes what it handed out
  let called : Cluster :=
    { c with
      subscribers := c.subscribers.map emptied
      pending := [⟨enabled, note, none⟩], called := c.called + 1 }
  let returned : Cluster :=
    { c.record enabled note now with
      subscribers := (c.subscribers.map emptied).map (handed enabled), called := c.called + 1 }
  have hdrain : (c.beginToggle enabled note).drain = (waitingAt c.subscribers, called) := by
    rw [drain_eq, beginToggle, halone]
    rfl
  have hempty : ∀ channel ∈ called.subscribers, channel.waiting = none := by
    intro channel hmem
    obtain ⟨before, -, rfl⟩ := List.mem_map.mp hmem
    rfl
  have hsettle : called.settle now = (returned, [.log (.trafficUpdated enabled note)]) := by
    rw [settle_alone rfl hempty]
    simp [returned, record, called, halone]
  have hover : completeFor 2 now returned =
      ({ returned with subscribers := c.subscribers.map emptied }, [],
        waitingAt returned.subscribers) := by
    rw [completeFor_idle (c := returned) halone, List.map_map, emptied_comp_handed, List.map_map,
      emptied_idem]
  have hrounds : (c.beginToggle enabled note).pending.length + 2 = 3 := by
    simp [beginToggle, halone]
  rw [complete, hrounds, completeFor, hdrain]
  simp only [hsettle, hover, List.append_nil]
  rfl

/-! ## Subscribers take what they are handed when they like -/

/-- What may happen while a call is alone: it goes on, and subscribers take what waits for them or
leave. -/
def Action.isQuiet : Action → Bool
  | .goOn | .take _ | .leave _ => true
  | .call _ | .elect _ => false

/-- What waits for a subscriber. -/
def heldFor (c : Cluster) (place : Nat) : List Bool :=
  (c.subscribers[place]?.bind (·.waiting)).toList

/-- How far a call that began in the state `c` and is alone has come: it waits to be recorded, is
being handed on, or has returned. -/
inductive Lone (c : Cluster) (d : Decision) (c' : Cluster) (signals : List Signal) : Prop where
  | queued (active : c'.active = c.active) (pending : c'.pending = [⟨d.enabled, d.note, none⟩])
      (got : ∀ place, Delivered c'.subscribers none (c.heldFor place) place (takenBy place signals))
  | handing (n : Nat) (active : c'.active = c.active) (decision : c'.decision = d)
      (updated : c'.updated.isSome) (pending : c'.pending = [⟨d.enabled, d.note, some n⟩])
      (got : ∀ place, Delivered c'.subscribers (some n) (c.heldFor place ++ [d.enabled]) place
        (takenBy place signals))
  | returned (active : c'.active = c.active) (decision : c'.decision = d)
      (updated : c'.updated.isSome) (pending : c'.pending = [])
      (got : ∀ place, Delivered c'.subscribers none (c.heldFor place ++ [d.enabled]) place
        (takenBy place signals))

variable {d : Decision} {c₀ : Cluster} {signals more : List Signal}

theorem begin_lone (halone : c.pending = []) (d : Decision) :
    c.Lone d (c.beginToggle d.enabled d.note) [] := by
  refine .queued rfl (by simp [beginToggle, halone]) fun place => ?_
  rw [Delivered.none_iff]
  intro channel hchannel _
  have hheld : c.subscribers[place]? = some channel := hchannel
  rw [heldFor, hheld]
  rfl

/-- The call is recorded, handed to one more subscriber, or returns. -/
theorem Lone.go_on (h : c₀.Lone d c signals) {now : Timestamp} {effects : List Effect}
    (hstep : c.step now = some (c', effects)) : c₀.Lone d c' signals := by
  obtain ⟨enabled, note, rest, hcases⟩ := step_cases hstep
  cases h with
  | queued active pending got =>
      obtain ⟨hpending, rfl⟩ | ⟨n, hpending, -⟩ := hcases
      · rw [pending] at hpending
        obtain ⟨hhead, rfl⟩ := List.cons.inj hpending
        obtain ⟨rfl, rfl, -⟩ := Toggle.mk.inj hhead
        exact .handing 0 active rfl rfl rfl fun place => (got place).begin_broadcast d.enabled
      · rw [pending] at hpending
        cases hpending
  | handing n active decision updated pending got =>
      obtain ⟨hpending, -⟩ | ⟨m, hpending, hcases⟩ := hcases
      · rw [pending] at hpending
        cases hpending
      · rw [pending] at hpending
        obtain ⟨hhead, rfl⟩ := List.cons.inj hpending
        obtain ⟨rfl, rfl, hserved⟩ := Toggle.mk.inj hhead
        obtain rfl := Option.some.inj hserved
        rcases hcases with ⟨hall, rfl⟩ | ⟨channel, hchannel, ⟨hgone, rfl⟩ | ⟨-, hempty, rfl⟩⟩
        · exact .returned active decision updated rfl fun place => (got place).end_broadcast hall
        · exact .handing (n + 1) active decision updated rfl fun place =>
            (got place).pass hchannel hgone
        · exact .handing (n + 1) active decision updated rfl fun place =>
            (got place).hand hchannel hempty
  | returned active decision updated pending got =>
      obtain ⟨hpending, -⟩ | ⟨n, hpending, -⟩ := hcases <;>
        · rw [pending] at hpending
          cases hpending

/-- Going on is nothing that a subscriber takes. -/
theorem taken_by_going (place : Nat) (signals : List Signal) (c : Cluster) :
    takenBy place (signals ++ c.going) = takenBy place signals := by
  rw [taken_by_append]
  unfold going
  split
  · exact List.append_nil _
  · split
    · exact List.append_nil _
    · split <;> exact List.append_nil _

/-- What a subscriber does changes channels only, and what it takes does not wait any more. -/
theorem act_delivered {served : Option Nat} {values : Nat → List Bool}
    (h : ∀ place, Delivered c.subscribers served (values place) place (takenBy place signals))
    {now : Timestamp} {action : Action} (hquiet : action.isQuiet = true)
    (hact : c.act now action = some (c', more)) :
    (∃ effects, c.step now = some (c', effects) ∧ more = c.going) ∨
      ∃ channels, c' = { c with subscribers := channels } ∧
        ∀ place, Delivered channels served (values place) place
          (takenBy place (signals ++ more)) := by
  cases action with
  | call d => cases hquiet
  | elect active => cases hquiet
  | goOn =>
      obtain ⟨⟨next, effects⟩, hstep, heq⟩ := Option.map_eq_some_iff.mp hact
      obtain ⟨rfl, rfl⟩ := Prod.mk.inj heq
      exact .inl ⟨effects, hstep, rfl⟩
  | leave place =>
      obtain ⟨rfl, rfl⟩ := Prod.mk.inj (Option.some.inj hact)
      rw [List.append_nil]
      exact .inr ⟨_, rfl, fun other => (h other).leave place⟩
  | take place =>
      simp only [act] at hact
      split at hact
      · rename_i enabled channel' hreceive
        obtain ⟨rfl, rfl⟩ := Prod.mk.inj (Option.some.inj hact)
        obtain ⟨channel, hchannel, hvalue⟩ := Option.map_eq_some_iff.mp hreceive
        obtain ⟨hwaiting, rfl⟩ := Channel.receive_value hvalue
        have hget := (Option.filter_eq_some_iff.mp hchannel).1
        refine .inr ⟨_, rfl, fun other => ?_⟩
        rw [taken_by_append]
        by_cases hplace : place = other
        · subst other
          have htaken : takenBy place [.taken place enabled] = [enabled] := by simp [takenBy]
          rw [htaken]
          exact (h place).take hget hwaiting
        · have htaken : takenBy other [.taken place enabled] = [] := by simp [takenBy, hplace]
          rw [htaken, List.append_nil]
          exact (h other).of_other (List.getElem?_set_ne hplace)
      · cases hact

/-- Whatever happens while the call is alone, it goes on as it should. -/
theorem Lone.act (h : c₀.Lone d c signals) {now : Timestamp} {action : Action}
    (hquiet : action.isQuiet = true) (hact : c.act now action = some (c', more)) :
    c₀.Lone d c' (signals ++ more) := by
  have hgo : ∀ effects, c.step now = some (c', effects) → more = c.going →
      c₀.Lone d c' (signals ++ more) := by
    rintro effects hstep rfl
    cases h.go_on hstep with
    | queued active pending got =>
        exact .queued active pending fun place => taken_by_going place signals c ▸ got place
    | handing n active decision updated pending got =>
        exact .handing n active decision updated pending fun place =>
          taken_by_going place signals c ▸ got place
    | returned active decision updated pending got =>
        exact .returned active decision updated pending fun place =>
          taken_by_going place signals c ▸ got place
  cases h with
  | queued active pending got =>
      rcases act_delivered got hquiet hact with ⟨effects, hstep, hmore⟩ | ⟨channels, rfl, hgot⟩
      · exact hgo effects hstep hmore
      · exact .queued active pending hgot
  | handing n active decision updated pending got =>
      rcases act_delivered got hquiet hact with ⟨effects, hstep, hmore⟩ | ⟨channels, rfl, hgot⟩
      · exact hgo effects hstep hmore
      · exact .handing n active decision updated pending hgot
  | returned active decision updated pending got =>
      rcases act_delivered got hquiet hact with ⟨effects, hstep, hmore⟩ | ⟨channels, rfl, hgot⟩
      · exact hgo effects hstep hmore
      · exact .returned active decision updated pending hgot

theorem Lone.run (h : c₀.Lone d c signals) {actions : List (Timestamp × Action)}
    (hquiet : ∀ step ∈ actions, step.2.isQuiet = true) (hrun : c.run actions = some (c', more)) :
    c₀.Lone d c' (signals ++ more) := by
  induction actions generalizing c signals more with
  | nil =>
      obtain ⟨rfl, rfl⟩ := Prod.mk.inj (Option.some.inj hrun)
      rwa [List.append_nil]
  | cons first rest ih =>
      rw [List.forall_mem_cons] at hquiet
      rw [Cluster.run, run_steps_cons] at hrun
      obtain ⟨next, shown, others, hnext, hrest, rfl⟩ := hrun
      rw [← List.append_assoc]
      exact ih (h.act hquiet.1 hnext) hquiet.2 hrest

/-- However the steps of a call that is alone and of the subscribers alternate: once it has
returned, its decision is shown, the active backend is the one from before, and everybody who is
still there has got its flag besides what waited for him, and nothing else. -/
theorem handed_alone (halone : c.pending = []) (d : Decision)
    {actions : List (Timestamp × Action)} (hquiet : ∀ step ∈ actions, step.2.isQuiet = true)
    (hrun : (c.beginToggle d.enabled d.note).run actions = some (c', signals))
    (hreturned : c'.pending = []) :
    c'.decision = d ∧ c'.updated.isSome ∧ c'.active = c.active ∧
      ∀ place channel, c'.subscribers[place]? = some channel → channel.listened = true →
        takenBy place signals ++ channel.waiting.toList = c.heldFor place ++ [d.enabled] := by
  cases (begin_lone halone d).run hquiet hrun with
  | queued active pending got => rw [pending] at hreturned; cases hreturned
  | handing n active decision updated pending got => rw [pending] at hreturned; cases hreturned
  | returned active decision updated pending got =>
      exact ⟨decision, updated, active, fun place channel hchannel hlistened =>
        Delivered.none_iff.mp (got place) hchannel hlistened⟩

end GaleraProxy.Cluster
