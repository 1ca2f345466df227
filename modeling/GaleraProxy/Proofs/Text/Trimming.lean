/-!
# Texts without what stands around them

Blanks around a text and padding at its end are dropped. These lemmas say what is left: the text
begins and ends with something else, and what was dropped is of the dropped kind.
-/

namespace GaleraProxy

variable {α : Type} {p : α → Bool} {l front tail : List α}

/-- What is dropped at the end of a list is of the dropped kind. -/
theorem exists_dropEnd (p : α → Bool) (l : List α) :
    ∃ tail, l = (l.reverse.dropWhile p).reverse ++ tail ∧ ∀ x ∈ tail, p x = true := by
  refine ⟨(l.reverse.takeWhile p).reverse, ?_, fun x hx => ?_⟩
  · rw [← List.reverse_append, List.takeWhile_append_dropWhile, List.reverse_reverse]
  · exact List.all_eq_true.mp List.all_takeWhile x (List.mem_reverse.mp hx)

/-- What is dropped in front of a list is of the dropped kind. -/
theorem exists_dropStart (p : α → Bool) (l : List α) :
    ∃ front, l = front ++ l.dropWhile p ∧ ∀ x ∈ front, p x = true :=
  ⟨l.takeWhile p, List.takeWhile_append_dropWhile.symm,
    fun x hx => List.all_eq_true.mp List.all_takeWhile x hx⟩

/-- Nothing is dropped of a list without anything of the dropped kind. -/
theorem dropWhile_of_not_mem (h : ∀ x ∈ l, p x = false) : l.dropWhile p = l := by
  cases l with
  | nil => rfl
  | cons a rest =>
      have ha : ¬ p a = true := by
        rw [h a List.mem_cons_self]
        decide
      rw [List.dropWhile_cons_of_neg ha]

theorem dropStart_append (hfront : ∀ x ∈ front, p x = true) (hl : ∀ x ∈ l, p x = false) :
    (front ++ l).dropWhile p = l := by
  rw [List.dropWhile_append_of_pos hfront, dropWhile_of_not_mem hl]

theorem dropEnd_append (htail : ∀ x ∈ tail, p x = true) (hl : ∀ x ∈ l, p x = false) :
    ((l ++ tail).reverse.dropWhile p).reverse = l := by
  have htail' : ∀ x ∈ tail.reverse, p x = true := fun x hx => htail x (List.mem_reverse.mp hx)
  have hl' : ∀ x ∈ l.reverse, p x = false := fun x hx => hl x (List.mem_reverse.mp hx)
  rw [List.reverse_append, dropStart_append htail' hl', List.reverse_reverse]

/-- What stands between stretches of the dropped kind is left. -/
theorem dropEnd_dropStart_append (hfront : ∀ x ∈ front, p x = true) (hl : ∀ x ∈ l, p x = false)
    (htail : ∀ x ∈ tail, p x = true) :
    (((front ++ (l ++ tail)).dropWhile p).reverse.dropWhile p).reverse = l := by
  rw [List.dropWhile_append_of_pos hfront]
  cases l with
  | nil =>
      have hnone : tail.dropWhile p = [] := by
        rw [← List.append_nil tail]
        exact dropStart_append htail hl
      rw [List.nil_append, hnone]
      rfl
  | cons a rest =>
      have ha : ¬ p a = true := by
        rw [hl a List.mem_cons_self]
        decide
      rw [List.cons_append, List.dropWhile_cons_of_neg ha, ← List.cons_append]
      exact dropEnd_append htail hl

end GaleraProxy
