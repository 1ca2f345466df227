import GaleraProxy.Monitor.Election
import Mathlib.Data.List.Destutter

/-!
# The changes of an election

A monitor starts without an elected backend. Of the choices of its cycles `changes` keeps those that
differ from the one before, and `replaced` those backends that a different choice follows;
`changes_concat` and `replaced_concat` say what one more cycle adds, and `replaced_changes` that
repeated choices replace nothing.
-/

namespace GaleraProxy.Monitor

variable {α : Type} [DecidableEq α]

/-- The first value stays in front. -/
theorem destutter'_eq_cons (a : α) (l : List α) : ∃ rest, l.destutter' (· ≠ ·) a = a :: rest := by
  induction l with
  | nil => exact ⟨[], rfl⟩
  | cons b rest ih =>
      by_cases heq : a = b
      · rw [List.destutter'_cons_neg rest (not_not_intro heq)]
        exact ih
      · rw [List.destutter'_cons_pos rest heq]
        exact ⟨_, rfl⟩

/-- One more value is kept if it differs from the last one. -/
theorem destutter'_concat (a c : α) (l : List α) :
    (l ++ [c]).destutter' (· ≠ ·) a =
      if l.getLastD a = c then l.destutter' (· ≠ ·) a else l.destutter' (· ≠ ·) a ++ [c] := by
  -- the value in front changes along the list, and with it what the last one is compared to
  induction l generalizing a with
  | nil =>
      rw [List.nil_append, List.destutter'_singleton]
      by_cases heq : a = c
      · simp [heq]
      · simp [heq]
  | cons b rest ih =>
      have hlast : (b :: rest).getLastD a = rest.getLastD b := by cases rest <;> rfl
      rw [hlast, List.cons_append]
      by_cases heq : a = b
      · subst b
        rw [List.destutter'_cons_neg _ (not_not_intro rfl),
          List.destutter'_cons_neg _ (not_not_intro rfl), ih a]
      · rw [List.destutter'_cons_pos _ heq, List.destutter'_cons_pos _ heq, ih b]
        split <;> rfl

/-- The choices that differ from the one before, the first of which comes after none. -/
def changes (choices : List (Option α)) : List (Option α) :=
  ((none :: choices).destutter (· ≠ ·)).tail

/-- The changes come after the value at the start. -/
theorem cons_changes (choices : List (Option α)) :
    none :: changes choices = choices.destutter' (· ≠ ·) none := by
  obtain ⟨rest, hrest⟩ := destutter'_eq_cons none choices
  rw [changes, List.destutter_cons', hrest, List.tail_cons]

/-- One more choice is a change if it differs from the last one. -/
theorem changes_concat (choices : List (Option α)) (c : Option α) :
    changes (choices ++ [c]) =
      if choices.getLastD none = c then changes choices else changes choices ++ [c] := by
  apply List.cons_injective (a := none)
  show none :: changes (choices ++ [c]) = none :: _
  rw [cons_changes, destutter'_concat, ← cons_changes]
  split <;> rfl

/-- No change is the same as the one before, and the first one is not none. -/
theorem changes_chain (choices : List (Option α)) :
    (none :: changes choices).IsChain (· ≠ ·) := by
  rw [cons_changes]
  exact List.isChain_destutter' _ choices none

/-- The latest change is the latest choice. -/
theorem getLastD_changes (choices : List (Option α)) :
    (changes choices).getLastD none = choices.getLastD none := by
  induction choices using List.reverseRecOn with
  | nil => rfl
  | append_singleton l c ih =>
      rw [changes_concat, List.getLastD_concat]
      split
      · rename_i hsame
        rw [ih, hsame]
      · rw [List.getLastD_concat]

omit [DecidableEq α] in
/-- The latest choice, if it is a backend, has been made. -/
theorem mem_of_getLastD {choices : List (Option α)} {a : α} (h : choices.getLastD none = some a) :
    some a ∈ choices := by
  rw [List.getLastD_eq_getLast?] at h
  cases hlast : choices.getLast? with
  | none => rw [hlast] at h; cases h
  | some last =>
      rw [hlast, Option.getD_some] at h
      exact h ▸ List.mem_of_getLast? hlast

/-- Every change is a choice. -/
theorem mem_of_mem_changes {choices : List (Option α)} {c : Option α} (h : c ∈ changes choices) :
    c ∈ choices := by
  have hsublist := List.destutter_sublist (· ≠ ·) (none :: choices)
  rw [List.destutter_cons', ← cons_changes, List.cons_sublist_cons] at hsublist
  exact hsublist.subset h

/-- Changes are the same under other names, as long as these tell the choices apart. -/
theorem map_changes {β : Type} [DecidableEq β] {rename : Option α → Option β}
    {choices : List (Option α)} (hnone : rename none = none)
    (hinj : ∀ a ∈ none :: choices, ∀ b ∈ none :: choices, rename a = rename b → a = b) :
    (changes choices).map rename = changes (choices.map rename) := by
  have hmap : ((none :: choices).destutter (· ≠ ·)).map rename =
      ((none :: choices).map rename).destutter (· ≠ ·) :=
    List.map_destutter fun a ha b hb =>
      ⟨fun hne heq => hne (hinj a ha b hb heq), fun hne heq => hne (congrArg rename heq)⟩
  rw [List.map_cons, hnone] at hmap
  rw [changes, List.map_tail, hmap]
  rfl

/-- The backends that were chosen and not chosen again by the next cycle, in the order of the
cycles. -/
def replaced (choices : List (Option α)) : List α :=
  (choices.zip choices.tail).filterMap fun (before, after) =>
    if before = after then none else before

/-- The first choice is replaced by the second one if that differs from it. -/
theorem replaced_cons_cons (before after : Option α) (rest : List (Option α)) :
    replaced (before :: after :: rest) =
      (if before = after then [] else before.toList) ++ replaced (after :: rest) := by
  by_cases heq : before = after
  · simp [replaced, heq]
  · cases before with
    | none => simp [replaced, heq]
    | some a => simp [replaced, heq]

/-- One more choice replaces the last one if it differs from it. -/
theorem replaced_concat (choices : List (Option α)) (c : Option α) :
    replaced (choices ++ [c]) =
      replaced choices ++
        if choices.getLastD none = c then [] else (choices.getLastD none).toList := by
  induction choices with
  | nil => simp [replaced]
  | cons a rest ih =>
      cases rest with
      | nil =>
          rw [List.singleton_append, replaced_cons_cons]
          simp [replaced]
      | cons b others =>
          rw [List.cons_append, List.cons_append, replaced_cons_cons, ← List.cons_append, ih,
            replaced_cons_cons, List.append_assoc]
          rfl

/-- A choice that repeats the one before replaces nothing. -/
theorem replaced_changes (choices : List (Option α)) :
    replaced (changes choices) = replaced choices := by
  induction choices using List.reverseRecOn with
  | nil => rfl
  | append_singleton l c ih =>
      rw [changes_concat, replaced_concat]
      split
      · rw [List.append_nil, ih]
      · rename_i hne
        rw [replaced_concat, getLastD_changes, if_neg hne, ih]

example : replaced [some 1, some 1, none, none, some 2, some 3, some 3] = [1, 2] := by decide

end GaleraProxy.Monitor
