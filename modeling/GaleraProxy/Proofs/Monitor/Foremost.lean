import GaleraProxy.Proofs.Monitor.Winner
import GaleraProxy.Proofs.Text.ByteOrder

/-!
# The elected position

A monitor chooses a place in the list of backends, so that of backends with the same index and the
same name only one is chosen: the first under the lowest policy and the last under the highest.
`choice_is_foremost` says which place that is for all lists and that nothing about unhealthy
backends matters for it.
-/

namespace GaleraProxy

/-! ## The order of backends and places -/

/-- Whether a backend comes before another one in an election: its index is less, where none is less
than every number, or the indices are the same and the bytes of its name come first. -/
def ComesBefore (e d : Backend × BackendStatus) : Prop :=
  indexRank e.2.index < indexRank d.2.index ∨
    e.2.index = d.2.index ∧ Utf8.encode e.1.name < Utf8.encode d.1.name

/-- Whether two backends have the same index and the same name. -/
def SameKey (e d : Backend × BackendStatus) : Prop := e.2.index = d.2.index ∧ e.1.name = d.1.name

/-- Whether a policy takes a backend at a place rather than another one at another place. Only
between backends with the same index and the same name do the places decide. -/
def Policy.Ahead (policy : Policy) (e : Backend × BackendStatus) (i : ℕ)
    (d : Backend × BackendStatus) (j : ℕ) : Prop :=
  match policy with
  | .lowest => ComesBefore e d ∨ SameKey e d ∧ i ≤ j
  | .highest => ComesBefore d e ∨ SameKey d e ∧ j ≤ i

/-- A backend at a place that is healthy, and that a policy takes rather than any other one that is.
-/
structure Foremost (policy : Policy) (entries : List (Backend × BackendStatus)) (i : ℕ)
    (e : Backend × BackendStatus) : Prop where
  stands : entries[i]? = some e
  healthy : e.2.healthy = true
  ahead : ∀ ⦃j : ℕ⦄ ⦃d : Backend × BackendStatus⦄, entries[j]? = some d → d.2.healthy = true →
    policy.Ahead e i d j

/-- The backends of a list together with what a monitor knows of them. -/
def Monitor.entries (m : Monitor) (backends : List Backend) : List (Backend × BackendStatus) :=
  backends.zip m.statuses

/-- How many of the backends before a place are healthy. -/
def healthyBefore (entries : List (Backend × BackendStatus)) (i : ℕ) : ℕ :=
  ((entries.take i).filter fun e => e.2.healthy).length

theorem indexRank_inj {i j : Option ℕ} : indexRank i = indexRank j ↔ i = j := by
  cases i with
  | none => cases j <;> simp [indexRank]
  | some i => cases j <;> simp [indexRank]

/-- The candidate that a backend at a place is. -/
def candidateAt (i : ℕ) (e : Backend × BackendStatus) : Candidate := ⟨i, e.1.name, e.2⟩

/-- What a policy decides by: first the rank and then the place. -/
def Candidate.standing (c : Candidate) : Rank ×ₗ ℕ := toLex (c.rank, c.position)

theorem comesBefore_iff (e d : Backend × BackendStatus) (i j : ℕ) :
    ComesBefore e d ↔ (candidateAt i e).rank < (candidateAt j d).rank := by
  show _ ↔ toLex (indexRank e.2.index, e.1.name) < toLex (indexRank d.2.index, d.1.name)
  rw [Prod.Lex.toLex_lt_toLex, indexRank_inj, ← Utf8.encode_lt_iff]
  rfl

theorem sameKey_iff (e d : Backend × BackendStatus) (i j : ℕ) :
    SameKey e d ↔ (candidateAt i e).rank = (candidateAt j d).rank := by
  show _ ↔ toLex (indexRank e.2.index, e.1.name) = toLex (indexRank d.2.index, d.1.name)
  rw [toLex_inj, Prod.mk.injEq, indexRank_inj]
  rfl

/-- Standing is compared by rank first, and by place where the ranks are the same. -/
theorem standing_le_iff (e d : Backend × BackendStatus) (i j : ℕ) :
    (candidateAt i e).standing ≤ (candidateAt j d).standing ↔
      ComesBefore e d ∨ SameKey e d ∧ i ≤ j := by
  rw [Candidate.standing, Candidate.standing, Prod.Lex.toLex_le_toLex, ← comesBefore_iff,
    ← sameKey_iff]
  rfl

namespace Policy

/-- Whether a policy takes a candidate rather than another one, or they stand the same. -/
def Takes : Policy → Candidate → Candidate → Prop
  | .lowest, c, d => c.standing ≤ d.standing
  | .highest, c, d => d.standing ≤ c.standing

theorem takes_iff_ahead (policy : Policy) (e d : Backend × BackendStatus) (i j : ℕ) :
    policy.Takes (candidateAt i e) (candidateAt j d) ↔ policy.Ahead e i d j := by
  cases policy with
  | lowest => exact standing_le_iff e d i j
  | highest => exact standing_le_iff d e j i

theorem Takes.refl (policy : Policy) (c : Candidate) : policy.Takes c c := by
  cases policy <;> exact le_refl c.standing

theorem Takes.trans {policy : Policy} {c d f : Candidate} (hcd : policy.Takes c d)
    (hdf : policy.Takes d f) : policy.Takes c f := by
  cases policy with
  | lowest => exact le_trans hcd hdf
  | highest => exact le_trans hdf hcd

/-- Two candidates of which each is taken rather than the other are at one place. -/
theorem Takes.position_eq {policy : Policy} {c d : Candidate} (hcd : policy.Takes c d)
    (hdc : policy.Takes d c) : c.position = d.position := by
  have heq : c.standing = d.standing := by
    cases policy with
    | lowest => exact le_antisymm hcd hdc
    | highest => exact le_antisymm hdc hcd
  exact congrArg (fun s : Rank ×ₗ ℕ => (ofLex s).2) heq

/-- Of two candidates in the order of their places a policy prefers one that it takes rather than
either of them. -/
theorem takes_prefer (policy : Policy) {a b : Candidate} (h : a.position ≤ b.position) :
    policy.Takes (policy.prefer a b) a ∧ policy.Takes (policy.prefer a b) b := by
  by_cases hgt : a.compare b = .gt
  · have hle : b.standing ≤ a.standing :=
      Prod.Lex.toLex_le_toLex.mpr (.inl ((Candidate.compare_eq_gt_iff a b).mp hgt))
    cases policy with
    | lowest =>
        simp only [prefer, hgt]
        exact ⟨hle, le_refl _⟩
    | highest =>
        simp only [prefer, hgt]
        exact ⟨le_refl _, hle⟩
  · have hrank : a.rank ≤ b.rank := le_of_not_gt (mt (Candidate.compare_eq_gt_iff a b).mpr hgt)
    have hle : a.standing ≤ b.standing :=
      Prod.Lex.toLex_le_toLex.mpr ((lt_or_eq_of_le hrank).imp_right fun heq => ⟨heq, h⟩)
    cases policy with
    | lowest =>
        simp only [prefer]
        exact ⟨le_refl _, hle⟩
    | highest =>
        simp only [prefer]
        exact ⟨hle, le_refl _⟩

end Policy

/-! ## Comparing in the order of the places -/

/-- Whoever is left after all others have been compared in the order of their places is taken rather
than any of them. -/
theorem foldl_prefer_takes (policy : Policy) {first : Candidate} {others : List Candidate}
    (h : (first :: others).Pairwise fun a b => a.position ≤ b.position) :
    ∀ c ∈ first :: others, policy.Takes (others.foldl policy.prefer first) c := by
  induction others generalizing first with
  | nil =>
      intro c hc
      obtain rfl := List.mem_singleton.mp hc
      exact .refl policy _
  | cons next rest ih =>
      obtain ⟨hfirst, hrest⟩ := List.pairwise_cons.mp h
      obtain ⟨hnext, hothers⟩ := List.pairwise_cons.mp hrest
      obtain ⟨hbefore, hafter⟩ := policy.takes_prefer (hfirst next List.mem_cons_self)
      -- the favourite so far is one of those before the rest, so its place comes before theirs
      have hkept : (policy.prefer first next :: rest).Pairwise fun a b =>
          a.position ≤ b.position := by
        refine List.pairwise_cons.mpr ⟨fun c hc => ?_, hothers⟩
        rcases policy.prefer_cases first next with heq | heq
        · rw [heq]
          exact hfirst c (List.mem_cons_of_mem next hc)
        · rw [heq]
          exact hnext c hc
      have hleft := ih hkept _ List.mem_cons_self
      intro c hc
      rw [List.foldl_cons]
      rcases List.mem_cons.mp hc with rfl | hc
      · exact hleft.trans hbefore
      · rcases List.mem_cons.mp hc with rfl | hc
        · exact hleft.trans hafter
        · exact ih hkept c (List.mem_cons_of_mem _ hc)

namespace Monitor

/-- The candidates are the backends at their places. -/
theorem getElem?_candidatesFrom (i j : ℕ) (backends : List Backend)
    (statuses : List BackendStatus) :
    (candidatesFrom i backends statuses)[j]? =
      (backends.zip statuses)[j]?.map (candidateAt (i + j)) := by
  induction backends generalizing i j statuses with
  | nil => rfl
  | cons b rest ih =>
      cases statuses with
      | nil => rfl
      | cons s others =>
          cases j with
          | zero => rfl
          | succ j =>
              rw [candidatesFrom, List.getElem?_cons_succ, ih, List.zip_cons_cons,
                List.getElem?_cons_succ, Nat.add_right_comm]
              rfl

theorem candidatesFrom_sorted (i : ℕ) (backends : List Backend) (statuses : List BackendStatus) :
    (candidatesFrom i backends statuses).Pairwise fun a b => a.position ≤ b.position := by
  rw [List.pairwise_iff_getElem]
  intro j k hj hk hlt
  have hplace : ∀ n (hn : n < (candidatesFrom i backends statuses).length),
      (candidatesFrom i backends statuses)[n].position = i + n := by
    intro n hn
    have hget := getElem?_candidatesFrom i n backends statuses
    rw [List.getElem?_eq_getElem hn] at hget
    obtain ⟨e, -, heq⟩ := Option.map_eq_some_iff.mp hget.symm
    rw [← heq]
    rfl
  rw [hplace j hj, hplace k hk]
  omega

variable {m : Monitor} {backends : List Backend}

/-- A healthy backend stands for election at its place. -/
theorem mem_candidates_iff {c : Candidate} :
    c ∈ candidatesFrom 0 backends m.statuses ↔
      ∃ e, (m.entries backends)[c.position]? = some e ∧ c = candidateAt c.position e := by
  rw [List.mem_iff_getElem?]
  constructor
  · rintro ⟨j, hj⟩
    rw [getElem?_candidatesFrom, Nat.zero_add] at hj
    obtain ⟨e, he, rfl⟩ := Option.map_eq_some_iff.mp hj
    exact ⟨e, he, rfl⟩
  · rintro ⟨e, he, hc⟩
    refine ⟨c.position, ?_⟩
    rw [getElem?_candidatesFrom, Nat.zero_add, ← entries, he, Option.map_some, ← hc]

/-- The chosen place is the foremost one. -/
theorem foremost_of_choose {i : ℕ} (h : m.choose backends = some i) :
    ∃ e, Foremost m.policy (m.entries backends) i e := by
  obtain ⟨c, helect, rfl⟩ := Option.map_eq_some_iff.mp h
  have hwins := elect_wins helect
  obtain ⟨e, he, hc⟩ := mem_candidates_iff.mp hwins.stands
  have hhealthy : e.2.healthy = true := by
    have := hwins.healthy
    rwa [hc] at this
  refine ⟨e, he, hhealthy, fun j d hd hdhealthy => ?_⟩
  unfold elect at helect
  split at helect
  · cases helect
  · rename_i first others hcandidates
    obtain rfl := Option.some.inj helect
    have hsorted := (candidatesFrom_sorted 0 backends m.statuses).filter
      (fun c => c.status.healthy)
    rw [hcandidates] at hsorted
    have hmem : candidateAt j d ∈ first :: others := by
      rw [← hcandidates]
      exact List.mem_filter.mpr ⟨mem_candidates_iff.mpr ⟨d, hd, rfl⟩, hdhealthy⟩
    have htakes := foldl_prefer_takes m.policy hsorted _ hmem
    rw [hc] at htakes
    exact (m.policy.takes_iff_ahead e d _ j).mp htakes

/-- Nobody is chosen only where nobody is healthy. -/
theorem choose_eq_none_iff :
    m.choose backends = none ↔ ∀ e ∈ m.entries backends, e.2.healthy = false := by
  rw [choose, Option.map_eq_none_iff, elect_eq_none_iff]
  constructor
  · intro h e he
    obtain ⟨i, hi⟩ := List.mem_iff_getElem?.mp he
    exact h (candidateAt i e) (mem_candidates_iff.mpr ⟨e, hi, rfl⟩)
  · intro h c hc
    obtain ⟨e, he, heq⟩ := mem_candidates_iff.mp hc
    rw [heq]
    exact h e (List.mem_of_getElem? he)

end Monitor

/-- There is one foremost place. -/
theorem Foremost.unique {policy : Policy} {entries : List (Backend × BackendStatus)} {i j : ℕ}
    {e d : Backend × BackendStatus} (h : Foremost policy entries i e)
    (h' : Foremost policy entries j d) : i = j := by
  have hahead := (policy.takes_iff_ahead e d i j).mpr (h.ahead h'.stands h'.healthy)
  have hbehind := (policy.takes_iff_ahead d e j i).mpr (h'.ahead h.stands h.healthy)
  exact hahead.position_eq hbehind

/-- The foremost place is chosen. -/
theorem Monitor.choose_eq_some_iff {m : Monitor} {backends : List Backend} {i : ℕ} :
    m.choose backends = some i ↔ ∃ e, Foremost m.policy (m.entries backends) i e := by
  refine ⟨foremost_of_choose, ?_⟩
  rintro ⟨e, h⟩
  cases hchoose : m.choose backends with
  | none =>
      have hnone := choose_eq_none_iff.mp hchoose e (List.mem_of_getElem? h.stands)
      cases h.healthy.symm.trans hnone
  | some j =>
      obtain ⟨d, h'⟩ := foremost_of_choose hchoose
      rw [h.unique h']

/-! ## Without the unhealthy ones -/

section

variable {entries : List (Backend × BackendStatus)}

theorem healthyBefore_mono {i j : ℕ} (h : i ≤ j) :
    healthyBefore entries i ≤ healthyBefore entries j :=
  ((List.take_sublist_take_left h).filter _).length_le

/-- A healthy backend is found among the healthy ones behind those that come before it. -/
theorem getElem?_healthy {i : ℕ} {e : Backend × BackendStatus} (he : entries[i]? = some e)
    (hhealthy : e.2.healthy = true) :
    (entries.filter fun e => e.2.healthy)[healthyBefore entries i]? = some e := by
  obtain ⟨hlt, rfl⟩ := List.getElem?_eq_some_iff.mp he
  have hsplit : entries = entries.take i ++ entries[i] :: entries.drop (i + 1) := by
    rw [← List.drop_eq_getElem_cons hlt, List.take_append_drop]
  have hfilter : (entries.filter fun e => e.2.healthy) =
      (entries.take i).filter (fun e => e.2.healthy) ++
        entries[i] :: (entries.drop (i + 1)).filter (fun e => e.2.healthy) := by
    conv_lhs => rw [hsplit]
    rw [List.filter_append, List.filter_cons_of_pos (by exact hhealthy)]
  rw [hfilter, healthyBefore, List.getElem?_append_right (Nat.le_refl _), Nat.sub_self]
  rfl

/-- Whoever is found among the healthy ones stands at a place of all. -/
theorem exists_of_getElem?_healthy {n : ℕ} {e : Backend × BackendStatus}
    (he : (entries.filter fun e => e.2.healthy)[n]? = some e) :
    ∃ i, entries[i]? = some e ∧ e.2.healthy = true ∧ healthyBefore entries i = n := by
  induction entries generalizing n with
  | nil => cases he
  | cons first rest ih =>
      cases hfirst : first.2.healthy with
      | false =>
          rw [List.filter_cons_of_neg (by simp [hfirst])] at he
          obtain ⟨i, hi, hhealthy, hbefore⟩ := ih he
          refine ⟨i + 1, hi, hhealthy, ?_⟩
          rw [healthyBefore, List.take_succ_cons, List.filter_cons_of_neg (by simp [hfirst])]
          exact hbefore
      | true =>
          rw [List.filter_cons_of_pos (by simp [hfirst])] at he
          cases n with
          | zero =>
              obtain rfl := Option.some.inj he
              exact ⟨0, rfl, hfirst, rfl⟩
          | succ n =>
              obtain ⟨i, hi, hhealthy, hbefore⟩ := ih he
              refine ⟨i + 1, hi, hhealthy, ?_⟩
              rw [healthyBefore, List.take_succ_cons, List.filter_cons_of_pos (by simp [hfirst])]
              exact congrArg Nat.succ hbefore

theorem Policy.Ahead.mono {policy : Policy} {e d : Backend × BackendStatus} {i j k l : ℕ}
    (h : policy.Ahead e i d j) (hlow : i ≤ j → k ≤ l) (hhigh : j ≤ i → l ≤ k) :
    policy.Ahead e k d l := by
  cases policy with
  | lowest => exact h.imp_right fun ⟨hkey, hle⟩ => ⟨hkey, hlow hle⟩
  | highest => exact h.imp_right fun ⟨hkey, hle⟩ => ⟨hkey, hhigh hle⟩

/-- The foremost backend is the foremost one of those that are healthy. -/
theorem Foremost.among_healthy {policy : Policy} {i : ℕ} {e : Backend × BackendStatus}
    (h : Foremost policy entries i e) :
    Foremost policy (entries.filter fun e => e.2.healthy) (healthyBefore entries i) e where
  stands := getElem?_healthy h.stands h.healthy
  healthy := h.healthy
  ahead := fun n d hd hhealthy => by
    obtain ⟨j, hj, -, rfl⟩ := exists_of_getElem?_healthy hd
    exact (h.ahead hj hhealthy).mono healthyBefore_mono healthyBefore_mono

end

namespace Monitor

/-- For all backends and all that a monitor may know of them. Nobody is chosen only where nobody is
healthy. Otherwise the foremost place is chosen. Monitors for which the healthy backends are the
same, in the same order, choose the same one of them, whoever else there is. -/
theorem choice_is_foremost (m : Monitor) (backends : List Backend) :
    (m.choose backends = none ↔ ∀ e ∈ m.entries backends, e.2.healthy = false) ∧
    (∀ i, m.choose backends = some i ↔ ∃ e, Foremost m.policy (m.entries backends) i e) ∧
    ∀ (m' : Monitor) (backends' : List Backend), m'.policy = m.policy →
      ((m'.entries backends').filter fun e => e.2.healthy) =
        (m.entries backends).filter (fun e => e.2.healthy) →
      ((m'.choose backends').bind fun i => (m'.entries backends')[i]?) =
          (m.choose backends).bind (fun i => (m.entries backends)[i]?) ∧
        (m'.choose backends').map (healthyBefore (m'.entries backends')) =
          (m.choose backends).map (healthyBefore (m.entries backends)) := by
  refine ⟨choose_eq_none_iff, fun i => choose_eq_some_iff, fun m' backends' hpolicy hsame => ?_⟩
  have hhealthy : (∀ e ∈ m'.entries backends', e.2.healthy = false) ↔
      ∀ e ∈ m.entries backends, e.2.healthy = false := by
    simpa [List.filter_eq_nil_iff] using congrArg (· = []) hsame
  cases hchoose : m.choose backends with
  | none =>
      rw [choose_eq_none_iff.mpr (hhealthy.mpr (choose_eq_none_iff.mp hchoose))]
      exact ⟨rfl, rfl⟩
  | some i =>
      cases hchoose' : m'.choose backends' with
      | none =>
          have hnone := choose_eq_none_iff.mpr (hhealthy.mp (choose_eq_none_iff.mp hchoose'))
          cases hchoose.symm.trans hnone
      | some j =>
          obtain ⟨e, h⟩ := foremost_of_choose hchoose
          obtain ⟨d, h'⟩ := foremost_of_choose hchoose'
          have hamong' := h'.among_healthy
          rw [hsame, hpolicy] at hamong'
          have hplace := hamong'.unique h.among_healthy
          have hentry : d = e := by
            have hstands := h.among_healthy.stands
            rw [← hplace] at hstands
            exact Option.some.inj (hamong'.stands.symm.trans hstands)
          refine ⟨?_, congrArg some hplace⟩
          show (m'.entries backends')[j]? = (m.entries backends)[i]?
          rw [h'.stands, h.stands, hentry]

/-- Backends of these names. -/
def named (known : List (String × Option ℕ × Bool)) : List Backend :=
  known.map fun (name, _) => .ofConfig ⟨name, "10.0.0.1", 3306, 9201, "status"⟩

/-- A monitor that prefers the highest index and knows these indices and this health. -/
def knowing (known : List (String × Option ℕ × Bool)) : Monitor :=
  { create .highest false ⟨5000⟩ known.length 0 0 with
    statuses := known.map fun (_, index, healthy) => ⟨index, healthy, .zero⟩ }

/-- Four backends, of which two have the same index and the same name. -/
def tied : List (String × Option ℕ × Bool) :=
  [("c", some 1, true), ("e", none, true), ("c", some 1, true), ("b", some 1, true)]

/-- Of the two that are tied the last one is chosen, with and without an unhealthy backend before
them. -/
theorem choice_is_foremost_of_tie :
    (∃ e, Foremost .highest ((knowing (("d", some 7, false) :: tied)).entries
      (named (("d", some 7, false) :: tied))) 3 e) ∧
    (knowing tied).choose (named tied) = some 2 ∧
    healthyBefore ((knowing tied).entries (named tied)) 2 =
      healthyBefore ((knowing (("d", some 7, false) :: tied)).entries
        (named (("d", some 7, false) :: tied))) 3 := by
  have hfirst : (knowing (("d", some 7, false) :: tied)).choose
      (named (("d", some 7, false) :: tied)) = some 3 := by decide +kernel
  have hsecond : (knowing tied).choose (named tied) = some 2 := by decide +kernel
  obtain ⟨-, hforemost, hothers⟩ := choice_is_foremost
    (knowing (("d", some 7, false) :: tied)) (named (("d", some 7, false) :: tied))
  obtain ⟨-, hplace⟩ := hothers (knowing tied) (named tied) rfl (by decide +kernel)
  rw [hfirst, hsecond] at hplace
  exact ⟨(hforemost 3).mp hfirst, hsecond, Option.some.inj hplace⟩

end Monitor

end GaleraProxy
