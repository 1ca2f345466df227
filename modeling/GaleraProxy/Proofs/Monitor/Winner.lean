import GaleraProxy.Monitor.Basic
import Mathlib.Data.Prod.Lex
import Mathlib.Data.String.Basic
import Mathlib.Order.WithBot

/-!
# Who wins an election

Indices and names order the candidates, and every policy prefers one end of that order. `elect_wins`
says that the elected candidate is healthy and preferred to all others that are, and
`elect_eq_none_iff` that somebody is elected unless nobody is healthy.
-/

namespace GaleraProxy

/-!
## What a choice depends on

Of a healthy backend an election looks at the name and the index, and of another one at nothing.
`elect_congr` says so, and `choose_lt` that a backend is chosen from among those there are.
-/

/-- What an election looks at: the counters do not matter, nor does the index of an unhealthy
backend. -/
def BackendStatus.essence (s : BackendStatus) : BackendStatus :=
  { index := if s.healthy then s.index else none, healthy := s.healthy, counters := .zero }

/-- A candidate with what an election looks at. -/
def Candidate.essence (c : Candidate) : Candidate := { c with status := c.status.essence }

namespace Candidate

/-- Healthy candidates compare as their essences do. -/
theorem compare_essence {a b : Candidate} (ha : a.status.healthy = true)
    (hb : b.status.healthy = true) : a.essence.compare b.essence = a.compare b := by
  simp [Candidate.compare, essence, BackendStatus.essence, ha, hb]

end Candidate

theorem Policy.prefer_cases (policy : Policy) (a b : Candidate) :
    policy.prefer a b = a ∨ policy.prefer a b = b := by
  unfold Policy.prefer
  split
  · exact .inr rfl
  · exact .inl rfl
  · exact .inl rfl
  · exact .inr rfl

theorem Policy.prefer_essence (policy : Policy) {a b : Candidate} (ha : a.status.healthy = true)
    (hb : b.status.healthy = true) :
    policy.prefer a.essence b.essence = (policy.prefer a b).essence := by
  unfold Policy.prefer
  rw [Candidate.compare_essence ha hb]
  cases policy <;> cases a.compare b <;> rfl

/-- Choosing among healthy candidates is choosing among their essences. -/
theorem foldl_prefer_essence (policy : Policy) {first : Candidate} {others : List Candidate}
    (hfirst : first.status.healthy = true)
    (hothers : ∀ c ∈ others, c.status.healthy = true) :
    (others.map Candidate.essence).foldl policy.prefer first.essence =
      (others.foldl policy.prefer first).essence := by
  -- the favourite is healthy all along, since it is one of the candidates
  induction others generalizing first with
  | nil => rfl
  | cons c rest ih =>
      have hc : c.status.healthy = true := hothers c List.mem_cons_self
      rw [List.map_cons, List.foldl_cons, List.foldl_cons, policy.prefer_essence hfirst hc]
      refine ih ?_ fun d hd => hothers d (List.mem_cons_of_mem c hd)
      rcases policy.prefer_cases first c with heq | heq
      · rw [heq]
        exact hfirst
      · rw [heq]
        exact hc

/-- An election is decided by the essences of the candidates. -/
theorem elect_essence (policy : Policy) (candidates : List Candidate) :
    elect policy (candidates.map Candidate.essence) =
      (elect policy candidates).map Candidate.essence := by
  have hfilter : (candidates.map Candidate.essence).filter (fun c => c.status.healthy) =
      (candidates.filter fun c => c.status.healthy).map Candidate.essence := by
    rw [List.filter_map]
    rfl
  unfold elect
  rw [hfilter]
  cases hhealthy : candidates.filter fun c => c.status.healthy with
  | nil => rfl
  | cons first others =>
      have hall : ∀ c ∈ first :: others, c.status.healthy = true := by
        rw [← hhealthy]
        exact fun c hc => (List.mem_filter.mp hc).2
      simp only [List.map_cons, Option.map_some]
      rw [foldl_prefer_essence policy (hall first List.mem_cons_self)
        fun c hc => hall c (List.mem_cons_of_mem first hc)]

/-- Candidates that look the same elect the same backend. -/
theorem elect_congr (policy : Policy) {candidates candidates' : List Candidate}
    (h : candidates.map Candidate.essence = candidates'.map Candidate.essence) :
    (elect policy candidates).map (·.position) = (elect policy candidates').map (·.position) := by
  have helect : (elect policy candidates).map Candidate.essence =
      (elect policy candidates').map Candidate.essence := by
    rw [← elect_essence, h, elect_essence]
  have hposition := congrArg (Option.map (·.position)) helect
  rw [Option.map_map, Option.map_map] at hposition
  exact hposition

theorem foldl_prefer_mem (policy : Policy) (first : Candidate) (others : List Candidate) :
    others.foldl policy.prefer first ∈ first :: others := by
  induction others generalizing first with
  | nil => exact List.mem_cons_self
  | cons c rest ih =>
      rw [List.foldl_cons]
      rcases policy.prefer_cases first c with heq | heq
      · rw [heq]
        rcases List.mem_cons.mp (ih first) with hfirst | hrest
        · rw [hfirst]
          exact List.mem_cons_self
        · exact List.mem_cons_of_mem first (List.mem_cons_of_mem c hrest)
      · rw [heq]
        exact List.mem_cons_of_mem first (ih c)

/-- Only a candidate is elected. -/
theorem elect_mem {policy : Policy} {candidates : List Candidate} {c : Candidate}
    (h : elect policy candidates = some c) : c ∈ candidates := by
  unfold elect at h
  split at h
  · cases h
  · rename_i first others hhealthy
    obtain rfl := Option.some.inj h
    have hmem := foldl_prefer_mem policy first others
    rw [← hhealthy] at hmem
    exact (List.mem_filter.mp hmem).1

namespace Monitor

/-- A candidate stands at the place of a backend. -/
theorem position_lt {i : Nat} {backends : List Backend} {statuses : List BackendStatus}
    {c : Candidate} (hc : c ∈ candidatesFrom i backends statuses) :
    c.position < i + backends.length := by
  induction backends generalizing i statuses with
  | nil => cases hc
  | cons b rest ih =>
      cases statuses with
      | nil => cases hc
      | cons s others =>
          rcases List.mem_cons.mp hc with rfl | hc
          · show i < i + (rest.length + 1)
            omega
          · have hlt := ih hc
            rw [List.length_cons]
            omega

/-- A backend is chosen from among those there are. -/
theorem choose_lt {m : Monitor} {backends : List Backend} {i : Nat}
    (h : m.choose backends = some i) : i < backends.length := by
  obtain ⟨c, hc, rfl⟩ := Option.map_eq_some_iff.mp h
  have hlt := position_lt (elect_mem hc)
  omega

/-- A monitor that knows of nobody's health chooses nobody. -/
theorem candidates_of_unknown (i n : Nat) (backends : List Backend) :
    (candidatesFrom i backends (List.replicate n .unknown)).filter
      (fun c => c.status.healthy) = [] := by
  induction backends generalizing i n with
  | nil => rfl
  | cons b rest ih =>
      cases n with
      | zero => rfl
      | succ n => exact ih (i + 1) n

end Monitor

/-! ## Ranks -/

/-- What candidates are ordered by: an index, where none comes before every number, and then a name.
-/
abbrev Rank := WithBot ℕ ×ₗ String

/-- The place of an index in the order of indices. -/
def indexRank : Option ℕ → WithBot ℕ
  | none => ⊥
  | some i => WithBot.some i

/-- The rank of an index and a name. -/
def Rank.of (index : Option ℕ) (name : String) : Rank := toLex (indexRank index, name)

/-- The rank of a candidate. -/
def Candidate.rank (c : Candidate) : Rank := .of c.status.index c.name

/-- Equal ranks have equal names. -/
theorem Rank.name_eq {i j : Option ℕ} {name other : String}
    (h : Rank.of i name = Rank.of j other) : name = other :=
  congrArg (fun r : Rank => (ofLex r).2) h

/-! ## The order of candidates -/

theorem compareIndex_eq_gt_iff (a b : Option ℕ) :
    compareIndex a b = .gt ↔ indexRank b < indexRank a := by
  cases a with
  | none => cases b <;> simp [compareIndex, indexRank]
  | some i => cases b <;> simp [compareIndex, indexRank, Nat.compare_eq_gt]

theorem compareIndex_eq_eq_iff (a b : Option ℕ) :
    compareIndex a b = .eq ↔ indexRank b = indexRank a := by
  rw [eq_comm (a := indexRank b)]
  cases a with
  | none => cases b <;> simp [compareIndex, indexRank]
  | some i => cases b <;> simp [compareIndex, indexRank]

/-- A candidate comes after another one if its rank is greater. -/
theorem Candidate.compare_eq_gt_iff (a b : Candidate) : a.compare b = .gt ↔ b.rank < a.rank := by
  show _ ↔ toLex (indexRank b.status.index, b.name) < toLex (indexRank a.status.index, a.name)
  unfold Candidate.compare
  rw [Ordering.then_eq_gt, compareIndex_eq_gt_iff, compareIndex_eq_eq_iff, compare_gt_iff_gt,
    Prod.Lex.toLex_lt_toLex]

/-! ## What a policy prefers -/

namespace Policy

/-- Whether a policy prefers a rank to another one, or they are the same. -/
def Prefers : Policy → Rank → Rank → Prop
  | .lowest, x, y => x ≤ y
  | .highest, x, y => y ≤ x

theorem Prefers.refl (policy : Policy) (x : Rank) : policy.Prefers x x := by
  cases policy <;> exact le_refl x

theorem Prefers.trans {policy : Policy} {x y z : Rank} (hxy : policy.Prefers x y)
    (hyz : policy.Prefers y z) : policy.Prefers x z := by
  cases policy with
  | lowest => exact le_trans hxy hyz
  | highest => exact le_trans hyz hxy

theorem Prefers.antisymm {policy : Policy} {x y : Rank} (hxy : policy.Prefers x y)
    (hyx : policy.Prefers y x) : x = y := by
  cases policy with
  | lowest => exact le_antisymm hxy hyx
  | highest => exact le_antisymm hyx hxy

/-- Another policy prefers what this one does not. -/
theorem Prefers.opposite {policy other : Policy} (hne : policy ≠ other) {x y : Rank}
    (h : policy.Prefers x y) : other.Prefers y x := by
  cases policy with
  | lowest =>
      cases other with
      | lowest => exact absurd rfl hne
      | highest => exact h
  | highest =>
      cases other with
      | lowest => exact h
      | highest => exact absurd rfl hne

/-- Of two candidates a policy takes one that it prefers to both. -/
theorem prefers_prefer (policy : Policy) (a b : Candidate) :
    policy.Prefers (policy.prefer a b).rank a.rank ∧
      policy.Prefers (policy.prefer a b).rank b.rank := by
  by_cases hgt : a.compare b = .gt
  · have hlt := (Candidate.compare_eq_gt_iff a b).mp hgt
    cases policy with
    | lowest =>
        simp only [prefer, hgt]
        exact ⟨le_of_lt hlt, le_refl _⟩
    | highest =>
        simp only [prefer, hgt]
        exact ⟨le_refl _, le_of_lt hlt⟩
  · have hle := le_of_not_gt (mt (Candidate.compare_eq_gt_iff a b).mpr hgt)
    cases policy with
    | lowest =>
        simp only [prefer]
        exact ⟨le_refl _, hle⟩
    | highest =>
        simp only [prefer]
        exact ⟨hle, le_refl _⟩

end Policy

/-! ## The elected candidate -/

/-- Whoever is left after all others have been compared is preferred to all of them. -/
theorem foldl_prefer_prefers (policy : Policy) (first : Candidate) (others : List Candidate) :
    ∀ c ∈ first :: others, policy.Prefers (others.foldl policy.prefer first).rank c.rank := by
  induction others generalizing first with
  | nil =>
      intro c hc
      obtain rfl := List.mem_singleton.mp hc
      exact .refl policy _
  | cons next rest ih =>
      intro c hc
      rw [List.foldl_cons]
      obtain ⟨hfirst, hnext⟩ := policy.prefers_prefer first next
      -- whoever is taken now loses only to somebody who is preferred to both
      have hkept := ih (policy.prefer first next) _ List.mem_cons_self
      rcases List.mem_cons.mp hc with rfl | hc
      · exact hkept.trans hfirst
      · rcases List.mem_cons.mp hc with rfl | hc
        · exact hkept.trans hnext
        · exact ih (policy.prefer first next) c (List.mem_cons_of_mem _ hc)

/-- A healthy candidate that a policy prefers to all others that are healthy. -/
structure Candidate.Wins (c : Candidate) (policy : Policy) (candidates : List Candidate) :
    Prop where
  stands : c ∈ candidates
  healthy : c.status.healthy = true
  preferred : ∀ d ∈ candidates, d.status.healthy = true → policy.Prefers c.rank d.rank

/-- The elected candidate wins. -/
theorem elect_wins {policy : Policy} {candidates : List Candidate} {c : Candidate}
    (h : elect policy candidates = some c) : c.Wins policy candidates := by
  unfold elect at h
  split at h
  · cases h
  · rename_i first others hhealthy
    obtain rfl := Option.some.inj h
    have hmem := foldl_prefer_mem policy first others
    have hall := foldl_prefer_prefers policy first others
    rw [← hhealthy] at hmem hall
    obtain ⟨hstands, hhealthy⟩ := List.mem_filter.mp hmem
    exact ⟨hstands, hhealthy, fun d hd hhealthy => hall d (List.mem_filter.mpr ⟨hd, hhealthy⟩)⟩

/-- Nobody is elected only where nobody is healthy. -/
theorem elect_eq_none_iff {policy : Policy} {candidates : List Candidate} :
    elect policy candidates = none ↔ ∀ c ∈ candidates, c.status.healthy = false := by
  unfold elect
  split
  · rename_i hnone
    simpa [List.filter_eq_nil_iff] using hnone
  · rename_i first others hhealthy
    have hfirst : first ∈ candidates.filter fun c => c.status.healthy := by
      rw [hhealthy]
      exact List.mem_cons_self
    obtain ⟨hstands, hhealthy⟩ := List.mem_filter.mp hfirst
    refine ⟨nofun, fun hnone => ?_⟩
    cases hhealthy.symm.trans (hnone first hstands)

end GaleraProxy
