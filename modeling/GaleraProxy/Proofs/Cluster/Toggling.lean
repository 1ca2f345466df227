import GaleraProxy.Cluster.Switch
import GaleraProxy.Proofs.Channel

/-!
# How the switch hands its decisions on

Toggles have their turn one after the other. `step_cases` lists what one step can be, and `Orderly`
says that of the calls that have not returned only the first one may have been recorded, in which
case it is the latest decision.
-/

namespace GaleraProxy.Cluster

variable {c c' : Cluster}

/-- The number of subscribers who have been handed the decision on its way, if one is. -/
def handing (c : Cluster) : Option Nat := c.pending.head?.bind (·.served)

/-- A call that waits for its turn hands nothing on. -/
theorem begin_toggle_handing (c : Cluster) (enabled : Bool) (note : String) :
    (c.beginToggle enabled note).handing = c.handing := by
  cases hpending : c.pending with
  | nil => simp [handing, beginToggle, hpending]
  | cons head rest => simp [handing, beginToggle, hpending]

/-- The toggle that has its turn is recorded, handed to one more subscriber, or returns. -/
theorem step_cases {now : Timestamp} {effects : List Effect} (h : c.step now = some (c', effects)) :
    ∃ enabled note rest,
      (c.pending = ⟨enabled, note, none⟩ :: rest ∧
        c' = { c.record enabled note now with pending := ⟨enabled, note, some 0⟩ :: rest }) ∨
      ∃ n, c.pending = ⟨enabled, note, some n⟩ :: rest ∧
        (c.subscribers.length ≤ n ∧ c' = { c with pending := rest } ∨
          ∃ channel, c.subscribers[n]? = some channel ∧
            (channel.listened = false ∧
                c' = { c with pending := ⟨enabled, note, some (n + 1)⟩ :: rest } ∨
              channel.listened = true ∧ channel.waiting = none ∧
                c' = { c with
                  subscribers := c.subscribers.set n { channel with waiting := some enabled }
                  pending := ⟨enabled, note, some (n + 1)⟩ :: rest })) := by
  unfold step at h
  split at h
  · cases h
  · rename_i enabled note rest hpending
    obtain ⟨rfl, -⟩ := Prod.mk.inj (Option.some.inj h)
    exact ⟨enabled, note, rest, .inl ⟨hpending, rfl⟩⟩
  · rename_i enabled note n rest hpending
    refine ⟨enabled, note, rest, .inr ⟨n, hpending, ?_⟩⟩
    split at h
    · split at h
      · rename_i subscribers served hstep
        obtain ⟨rfl, -⟩ := Prod.mk.inj (Option.some.inj h)
        obtain ⟨rfl, channel, hchannel, hcases⟩ := broadcast_step_cases hstep
        refine .inr ⟨channel, hchannel, ?_⟩
        rcases hcases with ⟨hgone, rfl⟩ | ⟨hlistened, hempty, rfl⟩
        · exact .inl ⟨hgone, rfl⟩
        · exact .inr ⟨hlistened, hempty, rfl⟩
      · cases h
    · rename_i hlt
      obtain ⟨rfl, -⟩ := Prod.mk.inj (Option.some.inj h)
      exact .inl ⟨Nat.le_of_not_lt hlt, rfl⟩

/-- Toggles leave alone which backend is shown as active. -/
theorem step_active {now : Timestamp} {effects : List Effect}
    (h : c.step now = some (c', effects)) : c'.active = c.active := by
  obtain ⟨enabled, note, rest, ⟨-, rfl⟩ | ⟨n, -, ⟨-, rfl⟩ | ⟨channel, -, hcases⟩⟩⟩ := step_cases h
  · rfl
  · rfl
  · rcases hcases with ⟨-, rfl⟩ | ⟨-, -, rfl⟩
    · rfl
    · rfl

/-- Only the first call may have been recorded, and then it is the latest decision. -/
structure Orderly (c : Cluster) : Prop where
  first : ∀ {t : Toggle} {n : Nat}, c.pending.head? = some t → t.served = some n →
    t.enabled = c.enabled
  others : ∀ {t : Toggle}, t ∈ c.pending.tail → t.served = none

theorem start_orderly (subscribers : Nat) : (start subscribers).Orderly :=
  ⟨nofun, nofun⟩

/-- A call waits for its turn. -/
theorem Orderly.begin_toggle (h : c.Orderly) (enabled : Bool) (note : String) :
    (c.beginToggle enabled note).Orderly := by
  cases hpending : c.pending with
  | nil =>
      constructor
      case first =>
        intro t n ht hn
        simp only [beginToggle, hpending, List.nil_append, List.head?_cons, Option.some.injEq] at ht
        cases ht ▸ hn
      case others => simp [beginToggle, hpending]
  | cons head rest =>
      constructor
      case first =>
        intro t n ht hn
        refine h.first ?_ hn
        simpa [beginToggle, hpending] using ht
      case others =>
        intro t ht
        simp only [beginToggle, hpending, List.cons_append, List.tail_cons, List.mem_append,
          List.mem_singleton] at ht
        rcases ht with ht | rfl
        · exact h.others (by rwa [hpending])
        · rfl

theorem Orderly.step (h : c.Orderly) {now : Timestamp} {effects : List Effect}
    (hstep : c.step now = some (c', effects)) : c'.Orderly := by
  obtain ⟨enabled, note, rest, hcases⟩ := step_cases hstep
  rcases hcases with ⟨hpending, rfl⟩ | ⟨n, hpending, hcases⟩
  · have hothers : ∀ {t : Toggle}, t ∈ rest → t.served = none :=
      fun ht => h.others (by rwa [hpending])
    exact ⟨fun ht _ => Option.some.inj ht ▸ rfl, hothers⟩
  · have hothers : ∀ {t : Toggle}, t ∈ rest → t.served = none :=
      fun ht => h.others (by rwa [hpending])
    have hfirst : enabled = c.enabled := h.first (by rw [hpending]; rfl) rfl
    rcases hcases with ⟨-, rfl⟩ | ⟨channel, -, ⟨-, rfl⟩ | ⟨-, -, rfl⟩⟩
    · refine ⟨fun {t m} ht hm => ?_, fun ht => hothers (List.mem_of_mem_tail ht)⟩
      cases (hothers (List.mem_of_mem_head? ht)).symm.trans hm
    · exact ⟨fun ht _ => Option.some.inj ht ▸ hfirst, hothers⟩
    · exact ⟨fun ht _ => Option.some.inj ht ▸ hfirst, hothers⟩

/-- When the first call returns, no other one has been recorded. -/
theorem Orderly.handing_rest (h : c.Orderly) {t : Toggle} {rest : List Toggle}
    (hpending : c.pending = t :: rest) : handing { c with pending := rest } = none := by
  cases rest with
  | nil => rfl
  | cons next others => exact h.others (by rw [hpending]; exact List.mem_cons_self)

variable {place : Nat} {seen seen' : Bool → Prop}

/-- A subscriber is informed of the latest decision. -/
def Informs (c : Cluster) (place : Nat) (seen : Bool → Prop) : Prop :=
  Informed c.subscribers c.handing c.enabled place seen

/-- A call that waits for its turn tells nobody. -/
theorem Informs.begin_toggle (h : c.Informs place seen) (enabled : Bool) (note : String) :
    (c.beginToggle enabled note).Informs place seen := by
  unfold Informs
  rwa [begin_toggle_handing]

/-- Subscribers learn of decisions in the order in which these are recorded. -/
theorem Informs.step (h : c.Informs place seen) (horderly : c.Orderly) {now : Timestamp}
    {effects : List Effect} (hstep : c.step now = some (c', effects)) : c'.Informs place seen := by
  obtain ⟨enabled, note, rest, hcases⟩ := step_cases hstep
  rcases hcases with ⟨hpending, rfl⟩ | ⟨n, hpending, hcases⟩
  · exact Informed.begin_broadcast h enabled
  · -- what is handed on is the latest decision, since later ones wait for their turn
    obtain rfl : enabled = c.enabled := horderly.first (by rw [hpending]; rfl) rfl
    have hhanding : c.handing = some n := by rw [handing, hpending]; rfl
    unfold Informs at h
    rw [hhanding] at h
    rcases hcases with ⟨hover, rfl⟩ | ⟨channel, hchannel, ⟨hgone, rfl⟩ | ⟨-, -, rfl⟩⟩
    · unfold Informs
      rw [horderly.handing_rest hpending]
      exact h.end_broadcast hover
    · exact h.pass hchannel hgone
    · exact h.hand hchannel

/-- A subscriber that takes a decision knows it. -/
theorem Informs.take (h : c.Informs place seen) {channel : Channel Bool} {enabled : Bool}
    (hchannel : c.subscribers[place]? = some channel) (hwaiting : channel.waiting = some enabled)
    (hseen : seen' enabled) :
    (c.setSubscriber place { channel with waiting := none }).Informs place seen' :=
  Informed.take h hchannel hwaiting hseen

/-- What another subscriber takes does not matter. -/
theorem Informs.take_other (h : c.Informs place seen) {other : Nat} (hother : other ≠ place)
    (channel : Channel Bool) : (c.setSubscriber other channel).Informs place seen := by
  refine Informed.of_other h ?_
  simp [setSubscriber, hother]

/-- A subscriber of a switch that starts has seen that traffic is enabled. -/
theorem start_informs {subscribers : Nat} (hplace : place < subscribers) (hseen : seen true) :
    (start subscribers).Informs place seen := by
  refine ⟨.empty, ?_, rfl, fun _ => ⟨nofun, fun _ => hseen⟩⟩
  simp [start, hplace]

end GaleraProxy.Cluster
