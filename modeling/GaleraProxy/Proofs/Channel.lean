import GaleraProxy.Channel
import GaleraProxy.Proofs.Basic

/-!
# What becomes of what is sent

`send_cases` tells when a value is queued, refused or dropped, and `broadcast_step_cases` what one
step of a broadcast does: it never touches the channels of those that are not served now. `Informed`
speaks of the latest value that has been broadcast, and `Delivered` of all of them.
-/

namespace GaleraProxy

variable {α : Type}

namespace Channel

/-- A value is dropped if nobody listens, refused if another one waits, and queued otherwise. -/
theorem send_cases (c : Channel α) (a : α) :
    (c.listened = false ∧ c.send a = .gone) ∨
      (c.listened = true ∧ c.waiting.isSome ∧ c.send a = .full) ∨
      (c.listened = true ∧ c.waiting = none ∧ c.send a = .queued { c with waiting := some a }) := by
  obtain ⟨waiting, listened, fed⟩ := c
  cases listened with
  | false => exact .inl ⟨rfl, rfl⟩
  | true =>
      cases waiting with
      | none => exact .inr (.inr ⟨rfl, rfl, rfl⟩)
      | some b => exact .inr (.inl ⟨rfl, rfl, rfl⟩)

/-- Only a value that waits is received. -/
theorem receive_value {c c' : Channel α} {a : α} (h : c.receive = .value a c') :
    c.waiting = some a ∧ c' = { c with waiting := none } := by
  unfold receive at h
  split at h
  · rename_i b hwaiting
    obtain ⟨rfl, rfl⟩ := Receiving.value.inj h
    exact ⟨hwaiting, rfl⟩
  · split at h <;> cases h

/-- A receiver comes to the end when the sender is gone and nothing waits. -/
theorem receive_ended_iff {c : Channel α} :
    c.receive = .ended ↔ c.fed = false ∧ c.waiting = none := by
  obtain ⟨waiting, listened, fed⟩ := c
  cases waiting <;> cases fed <;> simp [receive]

/-- A receiver that goes away does not take back that it has come to the end. -/
theorem leave_ended {c : Channel α} (h : c.receive = .ended) : c.leave.receive = .ended :=
  receive_ended_iff.mpr ⟨(receive_ended_iff.mp h).1, rfl⟩

end Channel

/-- A broadcast passes over a channel to which nobody listens, and queues its value in one that is
empty. -/
theorem broadcast_step_cases {channels channels' : List (Channel α)} {n n' : Nat} {a : α}
    (h : broadcastStep channels n a = some (channels', n')) :
    n' = n + 1 ∧ ∃ c, channels[n]? = some c ∧
      (c.listened = false ∧ channels' = channels ∨
        c.listened = true ∧ c.waiting = none ∧
          channels' = channels.set n { c with waiting := some a }) := by
  unfold broadcastStep at h
  cases hc : channels[n]? with
  | none => simp [hc] at h
  | some c =>
      simp only [hc] at h
      rcases c.send_cases a with ⟨hgone, hsend⟩ | ⟨-, -, hsend⟩ | ⟨hlistened, hempty, hsend⟩
      · simp only [hsend] at h
        obtain ⟨rfl, rfl⟩ := Prod.mk.inj (Option.some.inj h)
        exact ⟨rfl, c, rfl, .inl ⟨hgone, rfl⟩⟩
      · simp [hsend] at h
      · simp only [hsend] at h
        obtain ⟨rfl, rfl⟩ := Prod.mk.inj (Option.some.inj h)
        exact ⟨rfl, c, rfl, .inr ⟨hlistened, hempty, rfl⟩⟩

/-- A broadcast waits only for somebody who listens and has not taken an earlier value. -/
theorem broadcast_step_eq_none_iff {channels : List (Channel α)} {n : Nat} {c : Channel α} {a : α}
    (hc : channels[n]? = some c) :
    broadcastStep channels n a = none ↔ c.listened = true ∧ c.waiting.isSome := by
  rcases c.send_cases a with ⟨hgone, hsend⟩ | ⟨hlistened, hfull, hsend⟩ | ⟨hlistened, hempty, hsend⟩
  · simp [broadcastStep, hc, hsend, hgone]
  · simp [broadcastStep, hc, hsend, hlistened, hfull]
  · simp [broadcastStep, hc, hsend, hempty]

/-!
## What a receiver of broadcasts knows

A sender hands its latest value to one receiver after the other, and may begin with another value
once all have been served. `Informed` says that a receiver has taken the latest value or will find
it in its channel, unless a broadcast on its way has not come that far.
-/

/-- A broadcast on its way, of which so many have been served, has come to a place; or none is on
its way. -/
def HasCome (served : Option Nat) (place : Nat) : Prop := ∀ n, served = some n → place < n

/-- Somebody listens at a place. Once a broadcast has come there, what waits there is the latest
value; and if nothing waits, the receiver has seen it. -/
def Informed (channels : List (Channel α)) (served : Option Nat) (latest : α) (place : Nat)
    (seen : α → Prop) : Prop :=
  ∃ c, channels[place]? = some c ∧ c.listened = true ∧ (HasCome served place →
    (∀ a, c.waiting = some a → a = latest) ∧ (c.waiting = none → seen latest))

namespace Informed

variable {channels : List (Channel α)} {served : Option Nat} {latest : α} {place n : Nat}
  {seen seen' : α → Prop}

/-- A broadcast that begins has come to nobody. -/
theorem begin_broadcast (h : Informed channels served latest place seen) (latest' : α) :
    Informed channels (some 0) latest' place seen := by
  obtain ⟨c, hc, hlistened, -⟩ := h
  exact ⟨c, hc, hlistened, fun hcome => absurd (hcome 0 rfl) (Nat.not_lt_zero place)⟩

/-- A broadcast passes over somebody who does not listen. -/
theorem pass (h : Informed channels (some n) latest place seen) {c : Channel α}
    (hc : channels[n]? = some c) (hgone : c.listened = false) :
    Informed channels (some (n + 1)) latest place seen := by
  obtain ⟨d, hd, hlistened, hknown⟩ := h
  refine ⟨d, hd, hlistened, fun hcome => hknown fun m hm => ?_⟩
  obtain rfl := Option.some.inj hm
  refine Nat.lt_of_le_of_ne (Nat.le_of_lt_succ (hcome (n + 1) rfl)) ?_
  rintro rfl
  obtain rfl := Option.some.inj (hc.symm.trans hd)
  cases hgone.symm.trans hlistened

/-- A broadcast leaves its value with the next one. -/
theorem hand (h : Informed channels (some n) latest place seen) {c : Channel α}
    (hc : channels[n]? = some c) :
    Informed (channels.set n { c with waiting := some latest }) (some (n + 1)) latest place
      seen := by
  obtain ⟨d, hd, hlistened, hknown⟩ := h
  by_cases hplace : n = place
  · subst hplace
    obtain rfl := Option.some.inj (hc.symm.trans hd)
    refine ⟨{ c with waiting := some latest }, ?_, hlistened, fun _ => ⟨?_, ?_⟩⟩
    · exact getElem?_set_self_of_getElem? hc _
    · rintro a ⟨⟩
      rfl
    · rintro ⟨⟩
  · refine ⟨d, by rw [getElem?_set_of_getElem? hc, if_neg hplace, hd], hlistened, fun hcome => ?_⟩
    -- the broadcast had come to another place before
    refine hknown fun m hm => ?_
    obtain rfl := Option.some.inj hm
    have hlt := hcome (n + 1) rfl
    omega

/-- A broadcast that has come to the end has come to everybody. -/
theorem end_broadcast (h : Informed channels (some n) latest place seen)
    (hover : channels.length ≤ n) : Informed channels none latest place seen := by
  obtain ⟨c, hc, hlistened, hknown⟩ := h
  refine ⟨c, hc, hlistened, fun _ => hknown fun m hm => ?_⟩
  obtain rfl := Option.some.inj hm
  exact Nat.lt_of_lt_of_le (List.getElem?_eq_some_iff.mp hc).1 hover

/-- A receiver takes what waits for it. -/
theorem take (h : Informed channels served latest place seen) {c : Channel α} {a : α}
    (hc : channels[place]? = some c) (hwaiting : c.waiting = some a) (hseen : seen' a) :
    Informed (channels.set place { c with waiting := none }) served latest place seen' := by
  obtain ⟨d, hd, hlistened, hknown⟩ := h
  obtain rfl := Option.some.inj (hc.symm.trans hd)
  refine ⟨{ c with waiting := none }, ?_, hlistened, fun hcome => ⟨?_, fun _ => ?_⟩⟩
  · exact getElem?_set_self_of_getElem? hc _
  · rintro a ⟨⟩
  · exact (hknown hcome).1 a hwaiting ▸ hseen

/-- What becomes of other channels is no concern. -/
theorem of_other (h : Informed channels served latest place seen) {channels' : List (Channel α)}
    (hsame : channels'[place]? = channels[place]?) :
    Informed channels' served latest place seen := by
  obtain ⟨c, hc, hknown⟩ := h
  exact ⟨c, hsame.trans hc, hknown⟩

/-- Once the latest broadcast has come to a receiver for whom nothing waits, its value has been seen.
-/
theorem seen_of_come (h : Informed channels served latest place seen) (hcome : HasCome served place)
    (hempty : ∀ c, channels[place]? = some c → c.waiting = none) : seen latest := by
  obtain ⟨c, hc, -, hknown⟩ := h
  exact (hknown hcome).2 (hempty c hc)

/-- Once no broadcast is on its way and nothing waits, a receiver has seen the latest value. -/
theorem seen_of_empty (h : Informed channels none latest place seen)
    (hempty : ∀ c ∈ channels, c.waiting = none) : seen latest :=
  h.seen_of_come nofun fun c hc => hempty c (List.mem_of_getElem? hc)

end Informed

/-!
## What a receiver of broadcasts has got

Where `Informed` speaks of the latest value alone, `Delivered` speaks of all values that have been
broadcast: what a receiver took, followed by what waits for it, are those values in their order,
except for the latest one if its broadcast has not come that far.
-/

/-- The values that somebody who listens at a place took, followed by the one that waits, are all
values once the latest broadcast has come there, and all but the latest one before. -/
def Delivered (channels : List (Channel α)) (served : Option Nat) (values : List α) (place : Nat)
    (taken : List α) : Prop :=
  ∀ ⦃c : Channel α⦄, channels[place]? = some c → c.listened = true →
    (HasCome served place → taken ++ c.waiting.toList = values) ∧
    ∀ n, served = some n → n ≤ place → taken ++ c.waiting.toList = values.dropLast

theorem has_come_some {n place : Nat} : HasCome (some n) place ↔ place < n :=
  ⟨fun h => h n rfl, fun h _ hn => Option.some.inj hn ▸ h⟩

theorem has_come_none {place : Nat} : HasCome none place := nofun

namespace Delivered

variable {channels channels' : List (Channel α)} {served : Option Nat} {values taken : List α}
  {place n : Nat}

/-- While a broadcast is on its way, its place tells who has got its value. -/
theorem some_iff : Delivered channels (some n) values place taken ↔
    ∀ ⦃c : Channel α⦄, channels[place]? = some c → c.listened = true →
      (place < n → taken ++ c.waiting.toList = values) ∧
      (n ≤ place → taken ++ c.waiting.toList = values.dropLast) := by
  simp [Delivered, has_come_some]

/-- Once no broadcast is on its way, everybody has got all values. -/
theorem none_iff : Delivered channels none values place taken ↔
    ∀ ⦃c : Channel α⦄, channels[place]? = some c → c.listened = true →
      taken ++ c.waiting.toList = values := by
  simp [Delivered, has_come_none]

/-- A broadcast that begins has come to nobody. -/
theorem begin_broadcast (h : Delivered channels none values place taken) (a : α) :
    Delivered channels (some 0) (values ++ [a]) place taken := by
  rw [none_iff] at h
  rw [some_iff]
  intro c hc hlistened
  refine ⟨fun hlt => absurd hlt (Nat.not_lt_zero place), fun _ => ?_⟩
  rw [List.dropLast_concat]
  exact h hc hlistened

/-- A broadcast passes over somebody who does not listen. -/
theorem pass (h : Delivered channels (some n) values place taken) {c : Channel α}
    (hc : channels[n]? = some c) (hgone : c.listened = false) :
    Delivered channels (some (n + 1)) values place taken := by
  rw [some_iff] at h ⊢
  intro d hd hlistened
  obtain ⟨hbefore, hafter⟩ := h hd hlistened
  have hne : place ≠ n := by
    rintro rfl
    obtain rfl := Option.some.inj (hc.symm.trans hd)
    cases hgone.symm.trans hlistened
  exact ⟨fun hlt => hbefore (by omega), fun hle => hafter (by omega)⟩

/-- A broadcast leaves its value with the next one. -/
theorem hand {a : α} (h : Delivered channels (some n) (values ++ [a]) place taken) {c : Channel α}
    (hc : channels[n]? = some c) (hempty : c.waiting = none) :
    Delivered (channels.set n { c with waiting := some a }) (some (n + 1)) (values ++ [a]) place
      taken := by
  rw [some_iff] at h ⊢
  intro d hd hlistened
  rw [getElem?_set_of_getElem? hc] at hd
  split at hd
  · -- what was missing at this place is the value that waits there now
    subst place
    obtain rfl := Option.some.inj hd
    have hbefore := (h hc hlistened).2 (Nat.le_refl n)
    rw [hempty, Option.toList_none, List.append_nil, List.dropLast_concat] at hbefore
    refine ⟨fun _ => ?_, fun hle => absurd hle (Nat.not_succ_le_self n)⟩
    rw [hbefore]
    rfl
  · rename_i hne
    obtain ⟨hbefore, hafter⟩ := h hd hlistened
    exact ⟨fun hlt => hbefore (by omega), fun hle => hafter (by omega)⟩

/-- A broadcast that has come to the end has come to everybody. -/
theorem end_broadcast (h : Delivered channels (some n) values place taken)
    (hover : channels.length ≤ n) : Delivered channels none values place taken := by
  rw [some_iff] at h
  rw [none_iff]
  intro c hc hlistened
  have hlt : place < channels.length := (List.getElem?_eq_some_iff.mp hc).1
  exact (h hc hlistened).1 (Nat.lt_of_lt_of_le hlt hover)

/-- What a receiver takes does not wait any more. -/
theorem take (h : Delivered channels served values place taken) {c : Channel α} {a : α}
    (hc : channels[place]? = some c) (hwaiting : c.waiting = some a) :
    Delivered (channels.set place { c with waiting := none }) served values place
      (taken ++ [a]) := by
  intro d hd hlistened
  rw [getElem?_set_self_of_getElem? hc] at hd
  obtain rfl := Option.some.inj hd
  have hsame : taken ++ c.waiting.toList = taken ++ [a] := by rw [hwaiting, Option.toList_some]
  simp only [Option.toList_none, List.append_nil]
  rw [← hsame]
  exact h hc hlistened

/-- What becomes of other channels is no concern. -/
theorem of_other (h : Delivered channels served values place taken)
    (hsame : channels'[place]? = channels[place]?) :
    Delivered channels' served values place taken := by
  intro c hc
  exact h (hsame ▸ hc)

/-- Nothing is asked of somebody who has left. -/
theorem leave (h : Delivered channels served values place taken) (other : Nat) :
    Delivered (channels.modify other Channel.leave) served values place taken := by
  intro c hc hlistened
  rw [List.getElem?_modify, Option.map_eq_map] at hc
  obtain ⟨d, hd, rfl⟩ := Option.map_eq_some_iff.mp hc
  split at hlistened
  · cases hlistened
  · simp only [*, if_false]
    exact h hd hlistened

/-- A receiver has got all values, or all but the latest one, whose broadcast has not come there. -/
theorem eq_or (h : Delivered channels served values place taken) {c : Channel α}
    (hc : channels[place]? = some c) (hlistened : c.listened = true) :
    (taken ++ c.waiting.toList = values ∧ HasCome served place) ∨
      ∃ n, served = some n ∧ n ≤ place ∧ taken ++ c.waiting.toList = values.dropLast := by
  obtain ⟨hbefore, hafter⟩ := h hc hlistened
  cases served with
  | none => exact .inl ⟨hbefore has_come_none, has_come_none⟩
  | some n =>
      rcases Nat.lt_or_ge place n with hlt | hle
      · exact .inl ⟨hbefore (has_come_some.mpr hlt), has_come_some.mpr hlt⟩
      · exact .inr ⟨n, rfl, hle, hafter n rfl hle⟩

/-- What a receiver has got begins the values. -/
theorem isPrefix (h : Delivered channels served values place taken) {c : Channel α}
    (hc : channels[place]? = some c) (hlistened : c.listened = true) :
    taken ++ c.waiting.toList <+: values := by
  rcases h.eq_or hc hlistened with ⟨hall, -⟩ | ⟨n, -, -, hbutOne⟩
  · exact hall ▸ List.prefix_rfl
  · exact hbutOne ▸ List.dropLast_prefix values

/-- Of two receivers the earlier one is ahead, by one value at most. -/
theorem ahead {later : Nat} {taken' : List α} (h : Delivered channels served values place taken)
    (h' : Delivered channels served values later taken') (hlt : place < later) {c d : Channel α}
    (hc : channels[place]? = some c) (hlistened : c.listened = true)
    (hd : channels[later]? = some d) (hlistened' : d.listened = true) :
    taken' ++ d.waiting.toList <+: taken ++ c.waiting.toList ∧
      (taken ++ c.waiting.toList).length ≤ (taken' ++ d.waiting.toList).length + 1 := by
  rcases h'.eq_or hd hlistened' with ⟨hall', hcome⟩ | ⟨n, -, -, hbutOne'⟩
  · have hcome' : HasCome served place := fun n hn => Nat.lt_trans hlt (hcome n hn)
    rw [hall', (h hc hlistened).1 hcome']
    exact ⟨List.prefix_rfl, Nat.le_succ _⟩
  · rcases h.eq_or hc hlistened with ⟨hall, -⟩ | ⟨m, -, -, hbutOne⟩
    · rw [hbutOne', hall, List.length_dropLast]
      exact ⟨List.dropLast_prefix values, by omega⟩
    · rw [hbutOne', hbutOne]
      exact ⟨List.prefix_rfl, Nat.le_succ _⟩

end Delivered

end GaleraProxy
