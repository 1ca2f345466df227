import Mathlib.Algebra.GroupWithZero.Nat

/-!
# Places in a list, and computations that may fail

Backends, calls, severs and subscribers are named by their places. The lemmas of the first part say
what is found at a place after something has been put there, those of the second part what an
element does to the outcome when a list is gone through. A computation in several steps has a result
exactly if every step has one.
-/

namespace GaleraProxy

/-- Changing an element of a list puts its image in its place. -/
theorem modify_eq_set_of_getElem? {α : Type} {l : List α} {i : Nat} {a : α} {f : α → α}
    (h : l[i]? = some a) : l.modify i f = l.set i (f a) := by
  apply List.ext_getElem?
  intro j
  rw [List.getElem?_modify, List.getElem?_set]
  split
  · subst i
    obtain ⟨hlt, rfl⟩ := List.getElem?_eq_some_iff.mp h
    simp [hlt]
  · simp

/-- What is found in a list after the element at a place has been replaced. -/
theorem getElem?_set_of_getElem? {α : Type} {l : List α} {i : Nat} {a : α} (h : l[i]? = some a)
    (a' : α) (j : Nat) : (l.set i a')[j]? = if i = j then some a' else l[j]? := by
  obtain ⟨hlt, -⟩ := List.getElem?_eq_some_iff.mp h
  simp only [List.getElem?_set, hlt, if_true]

/-- What has replaced an element of a list is found in its place. -/
theorem getElem?_set_self_of_getElem? {α : Type} {l : List α} {i : Nat} {a : α}
    (h : l[i]? = some a) (a' : α) : (l.set i a')[i]? = some a' := by
  rw [getElem?_set_of_getElem? h, if_pos rfl]

/-- The sum over a list changes by what has been replaced. -/
theorem sum_map_set_add {α : Type} {l : List α} {i : Nat} {a : α} (f : α → Nat) (h : l[i]? = some a)
    (a' : α) : ((l.set i a').map f).sum + f a = (l.map f).sum + f a' := by
  induction l generalizing i with
  | nil => cases h
  | cons first rest ih =>
      cases i with
      | zero =>
          obtain rfl := Option.some.inj h
          simp only [List.set_cons_zero, List.map_cons, List.sum_cons]
          omega
      | succ i =>
          have hrest := ih (i := i) h
          simp only [List.set_cons_succ, List.map_cons, List.sum_cons]
          omega

/-! ## Lists that are gone through -/

/-- What becomes of an element of a list is in the result. -/
theorem mem_of_mapM {α β : Type} {f : α → Option β} {l : List α} {out : List β}
    (h : l.mapM f = some out) {a : α} {b : β} (ha : a ∈ l) (hb : f a = some b) : b ∈ out := by
  induction l generalizing out with
  | nil => cases ha
  | cons first rest ih =>
      rw [List.mapM_cons] at h
      obtain ⟨x, hx, h⟩ := Option.bind_eq_some_iff.mp h
      obtain ⟨others, hothers, h⟩ := Option.bind_eq_some_iff.mp h
      obtain rfl := Option.some.inj h
      rcases List.mem_cons.mp ha with rfl | hrest
      · obtain rfl := Option.some.inj (hb.symm.trans hx)
        exact List.mem_cons_self
      · exact List.mem_cons_of_mem _ (ih hothers hrest)

/-- What the step for one element brings about and every other step keeps holds after a fold over a
list with that element. -/
theorem of_foldl {α σ : Type} {P : σ → Prop} {f : σ → α → σ} {a : α} {l : List α} (ha : a ∈ l)
    (hbrings : ∀ s, P (f s a)) (hkeeps : ∀ s b, P s → P (f s b)) (s : σ) : P (l.foldl f s) := by
  obtain ⟨front, rest, rfl⟩ := List.append_of_mem ha
  rw [List.foldl_append, List.foldl_cons]
  exact List.foldlRecOn rest f (hbrings _) fun s hs b _ => hkeeps s b hs

/-!
## Computations that may fail

A computation in several steps has a result exactly if every step has one.
-/

variable {ε α β : Type} {x : Except ε α} {b : β}

/-- A computation in two steps succeeds if both do so one after the other. -/
theorem bind_eq_ok_iff {f : α → Except ε β} :
    x >>= f = .ok b ↔ ∃ a, x = .ok a ∧ f a = .ok b := by
  cases x with
  | error e => exact ⟨nofun, fun ⟨a, ha, _⟩ => nomatch ha⟩
  | ok a =>
      constructor
      · intro h
        exact ⟨a, rfl, h⟩
      · rintro ⟨a', ha, h⟩
        obtain rfl := Except.ok.inj ha
        exact h

/-- A computation in two steps fails in the first step, or in the second one after the first. -/
theorem bind_eq_error_iff {f : α → Except ε β} {e : ε} :
    x >>= f = .error e ↔ x = .error e ∨ ∃ a, x = .ok a ∧ f a = .error e := by
  cases x with
  | error e' =>
      constructor
      · intro h
        obtain rfl := Except.error.inj (show (.error e' : Except ε β) = .error e from h)
        exact .inl rfl
      · rintro (h | ⟨a, ha, -⟩)
        · obtain rfl := Except.error.inj h
          rfl
        · cases ha
  | ok a =>
      constructor
      · intro h
        exact .inr ⟨a, rfl, h⟩
      · rintro (h | ⟨a', ha, h⟩)
        · cases h
        · obtain rfl := Except.ok.inj ha
          exact h

/-- A result is changed if there is one. -/
theorem map_eq_ok_iff {f : α → β} : x.map f = .ok b ↔ ∃ a, x = .ok a ∧ f a = b := by
  cases x with
  | error e => exact ⟨nofun, fun ⟨a, ha, _⟩ => nomatch ha⟩
  | ok a =>
      constructor
      · intro h
        exact ⟨a, rfl, Except.ok.inj h⟩
      · rintro ⟨a', ha, rfl⟩
        obtain rfl := Except.ok.inj ha
        rfl

end GaleraProxy
