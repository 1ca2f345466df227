import GaleraProxy.Config.Model
import GaleraProxy.Document.Content
import GaleraProxy.Document.Kind

/-!
# Readers and the kinds that they read

`Reads depth kind write read` says that a reader accepts exactly the values of a kind, and that what
it makes of a value, written down in full, is the value completed. Readers of scalars and of lists
read their kinds, whatever the notation is.
-/

namespace GaleraProxy.Document

variable {ε α : Type}

/-- A result that fits a value: success with what the value comes to, or failure where the value is
not of the kind. -/
def Kind.Fits {φ : Type} (kind : Kind) (write : α → Json) (v : Json) : Except φ α → Prop
  | .ok a => kind.admits v = true ∧ write a = kind.complete v
  | .error _ => kind.admits v = false

/-- Results that differ at most in what is said about a failure fit alike. -/
theorem Kind.Fits.reworded {φ ψ : Type} {kind : Kind} {write : α → Json} {v : Json}
    {x : Except φ α} {y : Except ψ α} (h : kind.Fits write v x)
    (hsame : y.toOption = x.toOption) : kind.Fits write v y := by
  cases x with
  | error fault =>
      cases y with
      | error detail => exact h
      | ok a => cases hsame
  | ok a =>
      cases y with
      | error detail => cases hsame
      | ok b =>
          obtain rfl : b = a := Option.some.inj hsame
          exact h

/-- A reader of the values of a kind. -/
def Reads (depth : Nat) (kind : Kind) (write : α → Json) (read : Path → Node ε → Reading ε α) :
    Prop :=
  ∀ path node v, Shows depth node v → kind.agreed v = true → kind.Fits write v (read path node)

/-! ## What scalars are read as -/

/-- A node of another type is refused. -/
theorem wrongType_eq_error (path : Path) (n : Node ε) (expected : Expected) :
    ∃ fault : Fault ε, (wrongType path n expected : Reading ε α) = .error fault := by
  cases n with
  | broken e => exact ⟨_, rfl⟩
  | scalar span s => exact ⟨_, rfl⟩
  | list span items rest => exact ⟨_, rfl⟩
  | table span entries rest => exact ⟨_, rfl⟩
  | skipped span => exact ⟨_, rfl⟩

/-- A node of another type is refused rightly if its value is not of the kind. -/
theorem Kind.Fits.of_wrongType {kind : Kind} {write : α → Json} {v : Json} {path : Path}
    {n : Node ε} {expected : Expected} (h : kind.admits v = false) :
    kind.Fits write v (wrongType path n expected : Reading ε α) := by
  obtain ⟨fault, hfault⟩ := wrongType_eq_error (α := α) path n expected
  rw [hfault]
  exact h

/-- A scalar that is written as some text is read as that text. -/
theorem readText_of_written {s : Scalar} {t : String} (h : s.written? = some t)
    (expected : Expected) (path : Path) (span : Span) :
    readText (ε := ε) expected path (.scalar span s) = .ok t := by
  cases s with
  | null => cases h
  | bool b => cases h
  | int n => cases h
  | real x => cases h
  | text t' => cases h; rfl
  | unquoted t' reading => cases h; rfl
  | typed t' reading shown unmet => cases h; rfl

/-- A reader that takes scalars only reads a kind without collections if it reads its scalars. -/
theorem Reads.of_scalars {depth : Nat} {kind : Kind} {write : α → Json}
    {read : Path → Node ε → Reading ε α}
    (hlist : ∀ vs, kind.admits (.list vs) = false)
    (hobject : ∀ members, kind.admits (.object members) = false)
    (hrefuses : ∀ path n, (∀ span s, n ≠ .scalar span s) →
      ∃ expected, read path n = wrongType path n expected)
    (hscalar : ∀ path span s v, s.Tells v → kind.agreed v = true →
      kind.Fits write v (read path (.scalar span s))) :
    Reads depth kind write read := by
  intro path node v hshows hagreed
  have hrefused : (∀ span s, node ≠ .scalar span s) → kind.admits v = false →
      kind.Fits write v (read path node) := by
    intro hnode hadmits
    obtain ⟨expected, hexpected⟩ := hrefuses path node hnode
    rw [hexpected]
    exact .of_wrongType hadmits
  cases hshows with
  | scalar span full htells => exact hscalar path span _ v htells hagreed
  | list span items => exact hrefused nofun (hlist _)
  | table span entries => exact hrefused nofun (hobject _)
  | skippedList span vs => exact hrefused nofun (hlist _)
  | skippedTable span members => exact hrefused nofun (hobject _)

theorem reads_text (depth : Nat) : Reads (ε := ε) depth .text Json.text (readText .text) := by
  refine Reads.of_scalars (fun _ => rfl) (fun _ => rfl) ?_ ?_
  · intro path n hn
    cases n with
    | scalar span s => exact absurd rfl (hn span s)
    | _ => exact ⟨.text, rfl⟩
  · intro path span s v htells hagreed
    cases htells with
    | flag b reading => cases hagreed
    | whole n reading => cases hagreed
    | text t reading written =>
        rw [readText_of_written written]
        exact ⟨rfl, rfl⟩

theorem reads_flag (depth : Nat) : Reads (ε := ε) depth .flag Json.bool readFlag := by
  refine Reads.of_scalars (fun _ => rfl) (fun _ => rfl) ?_ ?_
  · intro path n hn
    cases n with
    | scalar span s => exact absurd rfl (hn span s)
    | _ => exact ⟨.flag, rfl⟩
  · intro path span s v htells _
    cases htells with
    | flag b reading =>
        simp only [readFlag, reading]
        exact ⟨rfl, rfl⟩
    | whole n reading =>
        simp only [readFlag, reading]
        exact .of_wrongType rfl
    | text t reading written =>
        simp only [readFlag, reading]
        exact .of_wrongType rfl

theorem Kind.below_admits_iff {bound : Nat} {n : Int} :
    (Kind.below bound).admits (.int n) = true ↔ 0 ≤ n ∧ n < bound :=
  decide_eq_true_iff

/-- Numbers up to a bound are read as they are. -/
theorem reads_nat (d : Dialect) (bound : Nat) (expected : Expected) (depth : Nat) :
    Reads (ε := ε) depth (.below bound) Json.nat (readNat d bound expected) := by
  refine Reads.of_scalars (fun _ => rfl) (fun _ => rfl) ?_ ?_
  · intro path n hn
    cases n with
    | scalar span s => exact absurd rfl (hn span s)
    | _ => exact ⟨expected, rfl⟩
  · intro path span s v htells _
    cases htells with
    | flag b reading =>
        simp only [readNat, reading]
        exact .of_wrongType rfl
    | text t reading written =>
        simp only [readNat, reading]
        exact .of_wrongType rfl
    | whole n reading =>
        cases n with
        | ofNat i =>
            simp only [readNat, reading]
            split
            · rename_i hlt
              exact ⟨Kind.below_admits_iff.2 ⟨Int.natCast_nonneg i, Int.ofNat_lt.2 hlt⟩, rfl⟩
            · rename_i hle
              have hout : (Kind.below bound).admits (.int (Int.ofNat i)) = false :=
                Bool.eq_false_iff.2 fun h => hle (Int.ofNat_lt.1 (Kind.below_admits_iff.1 h).2)
              split
              · exact hout
              · exact .of_wrongType hout
        | negSucc i =>
            have hout : (Kind.below bound).admits (.int (Int.negSucc i)) = false :=
              Bool.eq_false_iff.2 fun h =>
                absurd (Kind.below_admits_iff.1 h).1 (Int.not_le.2 (Int.negSucc_lt_zero i))
            simp only [readNat, reading]
            split
            · exact hout
            · exact .of_wrongType hout

/-! ## Readers made of other readers -/

/-- A reader followed by a change of its result that keeps what is written. -/
theorem Reads.map {β : Type} {depth : Nat} {kind : Kind} {write : α → Json} {write' : β → Json}
    {read : Path → Node ε → Reading ε α} (h : Reads depth kind write read) (f : α → β)
    (hf : ∀ v a, kind.admits v = true → write a = kind.complete v → write' (f a) = write a) :
    Reads depth kind write' fun path n => (read path n).map f := by
  intro path node v hshows hagreed
  have hfits := h path node v hshows hagreed
  show kind.Fits write' v ((read path node).map f)
  cases hread : read path node with
  | error fault =>
      rw [hread] at hfits
      exact hfits
  | ok a =>
      rw [hread] at hfits
      obtain ⟨hadmits, hwrite⟩ := hfits
      exact ⟨hadmits, (hf v a hadmits hwrite).trans hwrite⟩

/-- A number below a bound is a word that has room for it. -/
theorem Kind.below_of_nat {bound n : Nat} {v : Json} (hadmits : (Kind.below bound).admits v = true)
    (hwrite : Json.nat n = v) : n < bound := by
  subst hwrite
  exact Int.ofNat_lt.1 (Kind.below_admits_iff.1 hadmits).2

theorem reads_port (d : Dialect) (depth : Nat) :
    Reads (ε := ε) depth .port Config.portJson (readWord16 d) := by
  refine (reads_nat d UInt16.size .word16 depth).map UInt16.ofNat ?_
  intro v n hadmits hwrite
  have hlt : n < UInt16.size := Kind.below_of_nat hadmits hwrite
  show Json.nat (UInt16.ofNat n).toNat = Json.nat n
  rw [UInt16.toNat_ofNat_of_lt' hlt]

theorem reads_word (d : Dialect) (depth : Nat) :
    Reads (ε := ε) depth .word Config.wordJson (readWord64 d) := by
  refine (reads_nat d UInt64.size .word64 depth).map UInt64.ofNat ?_
  intro v n hadmits hwrite
  have hlt : n < UInt64.size := Kind.below_of_nat hadmits hwrite
  show Json.nat (UInt64.ofNat n).toNat = Json.nat n
  rw [UInt64.toNat_ofNat_of_lt' hlt]

/-- A value that may be null is read as any other where there is no null. -/
theorem Reads.optional {depth : Nat} {kind : Kind} {write : α → Json}
    {read : Path → Node ε → Reading ε α} (h : Reads depth kind write read) :
    Reads depth kind (fun a => (a.map write).getD .null) (readOptional read) := by
  intro path node v hshows hagreed
  have hsome : readOptional read path node = (read path node).map some := by
    cases hshows with
    | scalar span full htells =>
        cases htells with
        | flag b reading => simp only [readOptional, reading]
        | whole n reading => simp only [readOptional, reading]
        | text t reading written => simp only [readOptional, reading]
    | list span items => rfl
    | table span entries => rfl
    | skippedList span vs => rfl
    | skippedTable span members => rfl
  rw [hsome]
  exact h.map some (fun _ _ _ _ => rfl) path node v hshows hagreed

/-- The items of a list are read one by one. -/
theorem Reads.items {depth : Nat} {kind : Kind} {write : α → Json}
    {read : Path → Node ε → Reading ε α} (h : Reads depth kind write read) (path : Path) (i : Nat)
    {items : List (Node ε)} {vs : List Json} (hshows : ShowsItems depth items vs)
    (hagreed : vs.all kind.agreed = true) :
    (Kind.list kind).Fits (fun as => .list (as.map write)) (.list vs)
      (readItems read path none i items) := by
  induction vs generalizing items i with
  | nil =>
      cases hshows
      exact ⟨rfl, rfl⟩
  | cons v vs ih =>
      cases hshows with
      | cons hitem hitems =>
          rename_i item items
          simp only [List.all_cons, Bool.and_eq_true] at hagreed
          have hfirst := h (.index i :: path) item v hitem hagreed.1
          have hothers := ih (i + 1) hitems hagreed.2
          unfold readItems
          cases hread : read (.index i :: path) item with
          | error fault =>
              rw [hread] at hfirst
              show (v :: vs).all kind.admits = false
              rw [List.all_cons, hfirst, Bool.false_and]
          | ok a =>
              rw [hread] at hfirst
              obtain ⟨hadmits, hwrite⟩ := hfirst
              cases hreads : readItems read path none (i + 1) items with
              | error fault =>
                  rw [hreads] at hothers
                  show (v :: vs).all kind.admits = false
                  rw [List.all_cons, show vs.all kind.admits = false from hothers, Bool.and_false]
              | ok as =>
                  rw [hreads] at hothers
                  obtain ⟨hall, hwrites⟩ := hothers
                  have hmap : as.map write = vs.map kind.complete := by injection hwrites
                  refine ⟨?_, ?_⟩
                  · show (v :: vs).all kind.admits = true
                    rw [List.all_cons, hadmits, show vs.all kind.admits = true from hall]
                    rfl
                  · show Json.list (write a :: as.map write) =
                      Json.list (kind.complete v :: vs.map kind.complete)
                    rw [hwrite, hmap]

theorem Reads.list {depth : Nat} {kind : Kind} {write : α → Json}
    {read : Path → Node ε → Reading ε α} (h : Reads depth kind write read) (d : Dialect) :
    Reads (depth + 1) (.list kind) (fun as => .list (as.map write)) (readList d read) := by
  intro path node v hshows hagreed
  cases hshows with
  | scalar span full htells =>
      rename_i s
      have hread :
          readList d read path (.scalar span s) = wrongType path (.scalar span s) .sequence :=
        if_neg (by simp [full])
      rw [hread]
      cases htells with
      | flag b reading => exact .of_wrongType rfl
      | whole n reading => exact .of_wrongType rfl
      | text t reading written => exact .of_wrongType rfl
  | list span hitems => exact h.items path 0 hitems hagreed
  | table span hentries =>
      rename_i entries members
      show (Kind.list kind).Fits _ _ (wrongType path (.table span entries none) .sequence)
      exact .of_wrongType rfl

end GaleraProxy.Document
