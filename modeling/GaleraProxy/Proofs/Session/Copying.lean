import GaleraProxy.Session.Bridging

/-!
# Steps of copying

What one step of copying can be: it moves bytes, it waits, or it ends the direction. `moved_cases`,
`blocked_iff` and `finished_iff` say when it is which, and `read_ahead_cases` says what reading on
can be. No step loses, doubles or reorders a byte, and there is less left to do after it.
-/

namespace GaleraProxy

namespace Copy

variable {c next : Copy} {source sink source' sink' : Pipe}

/-- A step that moves writes what is pending, notes the end of the source, or reads on. -/
theorem moved_cases (h : c.step source sink = .moved source' sink' next) :
    (c.pending ≠ [] ∧ sink.room ≠ 0 ∧ source' = source ∧ sink' = (sink.put c.pending).1 ∧
      next = { c with pending := (sink.put c.pending).2 }) ∨
    (c.pending = [] ∧ c.sourceEnded = false ∧ source.atEnd = true ∧ source' = source ∧
      sink' = sink ∧ next = { c with sourceEnded := true }) ∨
    (c.pending = [] ∧ c.sourceEnded = false ∧ source.bytes ≠ [] ∧
      source' = (source.take chunk).2 ∧ sink' = sink ∧
      next = { c with pending := (source.take chunk).1 }) := by
  unfold step at h
  split at h
  · rename_i hpending
    split at h
    · cases h
    · split at h
      · cases h
      · rename_i hroom
        obtain ⟨rfl, rfl, rfl⟩ := Progress.moved.inj h
        exact .inl ⟨by simp [hpending], hroom, rfl, rfl, rfl⟩
  · rename_i hpending
    split at h
    · cases h
    · rename_i hended
      split at h
      · obtain ⟨rfl, rfl, rfl⟩ := Progress.moved.inj h
        exact .inr (.inl ⟨hpending, by simpa using hended, ‹_›, rfl, rfl, rfl⟩)
      · split at h
        · cases h
        · rename_i hempty
          obtain ⟨rfl, rfl, rfl⟩ := Progress.moved.inj h
          exact .inr (.inr ⟨hpending, by simpa using hended, by simpa using hempty, rfl, rfl, rfl⟩)

/-- A direction waits for room in its sink, or for a source that is still open. -/
theorem blocked_iff : c.step source sink = .blocked ↔
    (c.pending ≠ [] ∧ sink.closed = false ∧ sink.room = 0) ∨
    (c.pending = [] ∧ c.sourceEnded = false ∧ source.closed = false ∧ source.bytes = []) := by
  cases hpending : c.pending with
  | nil =>
      cases hended : c.sourceEnded <;> cases hclosed : source.closed <;>
        cases hbytes : source.bytes <;> simp [step, Pipe.atEnd, hpending, hended, hclosed, hbytes]
  | cons byte rest =>
      cases hclosed : sink.closed with
      | true => simp [step, hpending, hclosed]
      | false => by_cases hroom : sink.room = 0 <;> simp [step, hpending, hclosed, hroom]

/-- A direction ends when it cannot write, or when everything before the end of its source has been
written. -/
theorem finished_iff : c.step source sink = .finished ↔
    (c.pending ≠ [] ∧ sink.closed = true) ∨ (c.pending = [] ∧ c.sourceEnded = true) := by
  cases hpending : c.pending with
  | nil =>
      cases hended : c.sourceEnded <;> cases hclosed : source.closed <;>
        cases hbytes : source.bytes <;> simp [step, Pipe.atEnd, hpending, hended, hclosed, hbytes]
  | cons byte rest =>
      cases hclosed : sink.closed with
      | true => simp [step, hpending, hclosed]
      | false => by_cases hroom : sink.room = 0 <;> simp [step, hpending, hclosed, hroom]

/-- Reading on notes the end of the source or takes bytes from it. -/
theorem read_ahead_cases {n : Nat} (h : c.readAhead source n = some (source', next)) :
    c.sourceEnded = false ∧
    ((source.atEnd = true ∧ source' = source ∧ next = { c with sourceEnded := true }) ∨
      ∃ n, n ≠ 0 ∧ source.bytes ≠ [] ∧ source' = (source.take n).2 ∧
        next = { c with pending := c.pending ++ (source.take n).1 }) := by
  unfold readAhead at h
  split at h
  · cases h
  · rename_i hroom
    simp only [not_or, Bool.not_eq_true] at hroom
    refine ⟨hroom.1, ?_⟩
    split at h
    · obtain ⟨rfl, rfl⟩ := Prod.mk.inj (Option.some.inj h)
      exact .inl ⟨‹_›, rfl, rfl⟩
    · split at h
      · cases h
      · rename_i hempty
        obtain ⟨rfl, rfl⟩ := Prod.mk.inj (Option.some.inj h)
        exact .inr ⟨_, by omega, by simpa using hempty, rfl, rfl⟩

/-! ## Nothing is lost -/

/-- What goes into a pipe and what is left of it are what was to go into it. -/
theorem put_append (p : Pipe) (bytes rest : List UInt8) :
    (p.put bytes).1.bytes ++ (p.put bytes).2 ++ rest = p.bytes ++ bytes ++ rest := by
  rw [Pipe.put, List.append_assoc p.bytes, List.take_append_drop]

/-- What is taken out of a pipe and what stays in it are what was in it. -/
theorem take_append (p : Pipe) (n : Nat) : (p.take n).1 ++ (p.take n).2.bytes = p.bytes :=
  List.take_append_drop n p.bytes

/-- A step of copying moves bytes in order. -/
theorem step_bytes (h : c.step source sink = .moved source' sink' next) :
    sink'.bytes ++ next.pending ++ source'.bytes = sink.bytes ++ c.pending ++ source.bytes := by
  rcases moved_cases h with ⟨-, -, rfl, rfl, rfl⟩ | ⟨-, -, -, rfl, rfl, rfl⟩ |
    ⟨hpending, -, -, rfl, rfl, rfl⟩
  · exact put_append sink c.pending source'.bytes
  · rfl
  · rw [hpending, List.append_assoc, List.append_assoc, take_append, List.nil_append]

/-- Reading on moves bytes in order. -/
theorem read_ahead_bytes {n : Nat} (h : c.readAhead source n = some (source', next)) :
    next.pending ++ source'.bytes = c.pending ++ source.bytes := by
  obtain ⟨-, ⟨-, rfl, rfl⟩ | ⟨n, -, -, rfl, rfl⟩⟩ := read_ahead_cases h
  · rfl
  · rw [List.append_assoc, take_append]

/-! ## The end of the source -/

/-- The end of the source has been noted only if it is there. -/
def EndNoted (c : Copy) (source : Pipe) : Prop := c.sourceEnded = true → source.atEnd = true

theorem start_end_noted (source : Pipe) : start.EndNoted source := fun h => nomatch h

theorem EndNoted.step (h : c.EndNoted source)
    (hstep : c.step source sink = .moved source' sink' next) : next.EndNoted source' := by
  rcases moved_cases hstep with ⟨-, -, rfl, -, rfl⟩ | ⟨-, -, hend, rfl, -, -⟩ |
    ⟨-, hended, -, -, -, rfl⟩
  · exact h
  · exact fun _ => hend
  · exact fun hnoted => nomatch hended.symm.trans hnoted

theorem EndNoted.read_ahead {n : Nat} (h : c.readAhead source n = some (source', next)) :
    next.EndNoted source' := by
  obtain ⟨hended, ⟨hend, rfl, -⟩ | ⟨n, -, -, -, rfl⟩⟩ := read_ahead_cases h
  · exact fun _ => hend
  · exact fun hnoted => nomatch hended.symm.trans hnoted

/-! ## Less and less to do -/

/-- What a direction has left to do. -/
def work (c : Copy) (source : Pipe) : Nat :=
  2 * source.bytes.length + c.pending.length + (if c.sourceEnded then 0 else 1)

theorem step_work_lt (h : c.step source sink = .moved source' sink' next) :
    next.work source' < c.work source := by
  rcases moved_cases h with ⟨hpending, hroom, rfl, -, rfl⟩ | ⟨-, hended, -, rfl, -, rfl⟩ |
    ⟨hpending, -, hbytes, rfl, -, rfl⟩
  · have hlength := List.length_pos_iff.mpr hpending
    simp only [work, Pipe.put, List.length_drop]
    omega
  · simp [work, hended]
  · have hlength := List.length_pos_iff.mpr hbytes
    simp only [work, Pipe.take, hpending, List.length_take, List.length_drop, List.length_nil,
      chunk]
    omega

theorem read_ahead_work_lt {n : Nat} (h : c.readAhead source n = some (source', next)) :
    next.work source' < c.work source := by
  obtain ⟨hended, ⟨-, rfl, rfl⟩ | ⟨n, hn, hbytes, rfl, rfl⟩⟩ := read_ahead_cases h
  · simp [work, hended]
  · have hlength := List.length_pos_iff.mpr hbytes
    simp only [work, Pipe.take, List.length_append, List.length_take, List.length_drop]
    omega

end Copy

end GaleraProxy
