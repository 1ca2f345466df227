import GaleraProxy.Proofs.Document.Record

/-!
# The order of keys

A kind is steady if the order of keys makes no difference to it: documents that differ in it are
taken alike and mean the same. A value of a steady kind repeats no key. All kinds made of texts,
truth values, numbers, lists and records are steady.
-/

namespace GaleraProxy

theorem Json.Reordered.symm {v w : Json} (h : v.Reordered w) : w.Reordered v := by
  induction h with
  | refl v => exact .refl v
  | trans _ _ ih ih' => exact ih'.trans ih
  | keys hperm => exact .keys hperm.symm
  | item front back _ ih => exact .item front back ih
  | member front key back _ ih => exact .member front key back ih

theorem Json.keysDistinctItems_iff {vs : List Json} :
    Json.keysDistinctItems vs = true ↔ ∀ v ∈ vs, v.keysDistinct = true := by
  induction vs with
  | nil => simp [Json.keysDistinctItems]
  | cons v vs ih => simp [Json.keysDistinctItems, ih]

theorem Json.keysDistinctMembers_iff {members : List (String × Json)} :
    Json.keysDistinctMembers members = true ↔ ∀ m ∈ members, m.2.keysDistinct = true := by
  induction members with
  | nil => simp [Json.keysDistinctMembers]
  | cons m members ih => simp [Json.keysDistinctMembers, ih]

namespace Document

/-- A kind that takes no notice of the order of keys, but of their repetition. -/
structure Kind.Steady (kind : Kind) : Prop where
  onward : ∀ {v w : Json}, v.Reordered w → kind.admits v = true →
    kind.admits w = true ∧ kind.complete w = kind.complete v
  agreed : ∀ {v w : Json}, v.Reordered w → kind.agreed v = true → kind.agreed w = true
  distinct : ∀ {v : Json}, kind.admits v = true → v.keysDistinct = true

/-! ## Scalars -/

/-- A kind of scalars is steady. -/
theorem Kind.Steady.of_scalars {kind : Kind} (hlist : ∀ vs, kind.admits (.list vs) = false)
    (hobject : ∀ members, kind.admits (.object members) = false)
    (hlists : ∀ vs, kind.agreed (.list vs) = true)
    (hobjects : ∀ members, kind.agreed (.object members) = true) : kind.Steady where
  onward := by
    intro v w h hadmits
    induction h with
    | refl v => exact ⟨hadmits, rfl⟩
    | trans _ _ ih ih' =>
        obtain ⟨hu, hcomplete⟩ := ih hadmits
        obtain ⟨hw, hcomplete'⟩ := ih' hu
        exact ⟨hw, hcomplete'.trans hcomplete⟩
    | keys => rw [hobject] at hadmits; cases hadmits
    | item => rw [hlist] at hadmits; cases hadmits
    | member => rw [hobject] at hadmits; cases hadmits
  agreed := by
    intro v w h hagreed
    induction h with
    | refl v => exact hagreed
    | trans _ _ ih ih' => exact ih' (ih hagreed)
    | keys => exact hobjects _
    | item => exact hlists _
    | member => exact hobjects _
  distinct := by
    intro v hadmits
    cases v with
    | list vs => rw [hlist] at hadmits; cases hadmits
    | object members => rw [hobject] at hadmits; cases hadmits
    | _ => rfl

theorem Kind.Steady.text : Kind.text.Steady :=
  .of_scalars (fun _ => rfl) (fun _ => rfl) (fun _ => rfl) (fun _ => rfl)

theorem Kind.Steady.flag : Kind.flag.Steady :=
  .of_scalars (fun _ => rfl) (fun _ => rfl) (fun _ => rfl) (fun _ => rfl)

theorem Kind.Steady.below (bound : Nat) : (Kind.below bound).Steady :=
  .of_scalars (fun _ => rfl) (fun _ => rfl) (fun _ => rfl) (fun _ => rfl)

theorem Kind.Steady.port : Kind.port.Steady := .below _

theorem Kind.Steady.word : Kind.word.Steady := .below _

/-! ## Lists -/

theorem Kind.list_admits_iff {item : Kind} {vs : List Json} :
    (Kind.list item).admits (.list vs) = true ↔ ∀ v ∈ vs, item.admits v = true :=
  List.all_eq_true

theorem Kind.list_agreed_iff {item : Kind} {vs : List Json} :
    (Kind.list item).agreed (.list vs) = true ↔ ∀ v ∈ vs, item.agreed v = true :=
  List.all_eq_true

/-- One item of a list takes the place of another. -/
theorem forall_mem_replaced {α : Type} {P : α → Prop} {front back : List α} {v w : α}
    (hvw : P v → P w) (h : ∀ u ∈ front ++ v :: back, P u) : ∀ u ∈ front ++ w :: back, P u := by
  intro u hu
  rw [List.mem_append, List.mem_cons] at hu
  obtain hu | rfl | hu := hu
  · exact h u (List.mem_append_left _ hu)
  · exact hvw (h v (List.mem_append_right _ List.mem_cons_self))
  · exact h u (List.mem_append_right _ (List.mem_cons_of_mem _ hu))

theorem Kind.Steady.list {item : Kind} (hitem : item.Steady) : (Kind.list item).Steady where
  onward := by
    intro v w h hadmits
    induction h with
    | refl v => exact ⟨hadmits, rfl⟩
    | trans _ _ ih ih' =>
        obtain ⟨hu, hcomplete⟩ := ih hadmits
        obtain ⟨hw, hcomplete'⟩ := ih' hu
        exact ⟨hw, hcomplete'.trans hcomplete⟩
    | keys => cases hadmits
    | member => cases hadmits
    | @item v w front back h ih =>
        rw [Kind.list_admits_iff] at hadmits ⊢
        have hv : item.admits v = true :=
          hadmits v (List.mem_append_right _ List.mem_cons_self)
        refine ⟨forall_mem_replaced (fun hv => (hitem.onward h hv).1) hadmits, ?_⟩
        show Json.list ((front ++ w :: back).map item.complete) =
          Json.list ((front ++ v :: back).map item.complete)
        simp only [List.map_append, List.map_cons, (hitem.onward h hv).2]
  agreed := by
    intro v w h hagreed
    induction h with
    | refl v => exact hagreed
    | trans _ _ ih ih' => exact ih' (ih hagreed)
    | keys => rfl
    | member => rfl
    | item front back h ih =>
        rw [Kind.list_agreed_iff] at hagreed ⊢
        exact forall_mem_replaced (hitem.agreed h) hagreed
  distinct := by
    intro v hadmits
    cases v with
    | list vs =>
        rw [Kind.list_admits_iff] at hadmits
        exact Json.keysDistinctItems_iff.2 fun v hv => hitem.distinct (hadmits v hv)
    | _ => cases hadmits

/-! ## Records -/

/-- Where no key is repeated, a key leads to a value if both make up a member. -/
theorem lookup_eq_some_iff_mem {members : List (String × Json)} {key : String} {v : Json}
    (hnodup : (members.map (·.1)).Nodup) : members.lookup key = some v ↔ (key, v) ∈ members := by
  induction members with
  | nil => simp
  | cons m members ih =>
      obtain ⟨name, u⟩ := m
      rw [List.map_cons, List.nodup_cons] at hnodup
      rw [List.lookup_cons, List.mem_cons]
      by_cases hkey : key = name
      · subst hkey
        have hnot : (key, v) ∉ members := fun h => hnodup.1 (List.mem_map_of_mem (f := (·.1)) h)
        simp [hnot, eq_comm]
      · have hne : (key == name) = false := by simpa using hkey
        simp [hne, hkey, ih hnodup.2]

/-- Where no key is repeated, their order does not matter to where they lead. -/
theorem lookup_of_perm {members members' : List (String × Json)} (hperm : members.Perm members')
    (hnodup : (members.map (·.1)).Nodup) (key : String) :
    members'.lookup key = members.lookup key := by
  have hnodup' : (members'.map (·.1)).Nodup := (hperm.map _).nodup_iff.1 hnodup
  ext v
  rw [lookup_eq_some_iff_mem hnodup, lookup_eq_some_iff_mem hnodup', hperm.mem_iff]

/-- The settings of a record are settled by where its keys lead. -/
theorem Setting.value_of_lookup {s : Setting} {members members' : List (String × Json)}
    (h : members'.lookup s.key = members.lookup s.key) : s.value? members' = s.value? members := by
  unfold Setting.value?
  rw [h]

/-- A record is taken and completed alike if its keys are as distinct, its values are of the right
kinds and the settings come to the same. -/
theorem Kind.record_onward {settings : List Setting} {members members' : List (String × Json)}
    (hadmits : (Kind.record settings).admits (.object members) = true)
    (htakes : Takes settings [] members')
    (hvalues : ∀ s ∈ settings, s.value? members' = s.value? members) :
    (Kind.record settings).admits (.object members') = true ∧
      (Kind.record settings).complete (.object members') =
        (Kind.record settings).complete (.object members) := by
  rw [Kind.record_admits_iff] at hadmits ⊢
  refine ⟨⟨htakes, fun s hs => ?_⟩, ?_⟩
  · rw [hvalues s hs]
    exact hadmits.2 s hs
  · refine congrArg Json.object (List.map_congr_left fun s hs => ?_)
    rw [hvalues s hs]

theorem Kind.Steady.record {settings : List Setting}
    (hdistinct : (settings.map (·.key)).Nodup) (hsettings : ∀ s ∈ settings, s.kind.Steady) :
    (Kind.record settings).Steady where
  onward := by
    intro v w h hadmits
    induction h with
    | refl v => exact ⟨hadmits, rfl⟩
    | trans _ _ ih ih' =>
        obtain ⟨hu, hcomplete⟩ := ih hadmits
        obtain ⟨hw, hcomplete'⟩ := ih' hu
        exact ⟨hw, hcomplete'.trans hcomplete⟩
    | item => cases hadmits
    | @keys members members' hperm =>
        have htakes := takes_iff.1 (Kind.record_admits_iff.1 hadmits).1
        refine Kind.record_onward hadmits (takes_iff.2 ⟨?_, ?_, ?_⟩) fun s _ => ?_
        · exact (hperm.map _).nodup_iff.1 htakes.1
        · exact fun m hm => htakes.2.1 m (hperm.mem_iff.2 hm)
        · exact fun m hm => htakes.2.2 m (hperm.mem_iff.2 hm)
        · exact Setting.value_of_lookup (lookup_of_perm hperm htakes.1 s.key)
    | @member v w front key back h ih =>
        have htakes := takes_iff.1 (Kind.record_admits_iff.1 hadmits).1
        obtain ⟨s, hs, rfl, hv⟩ :=
          htakes.2.2 (key, v) (List.mem_append_right _ List.mem_cons_self)
        obtain ⟨hw, hcomplete⟩ := (hsettings s hs).onward h hv
        have hkeys : (front ++ (s.key, w) :: back).map (·.1) =
            (front ++ (s.key, v) :: back).map (·.1) := by simp
        have hnodup : ((front ++ (s.key, w) :: back).map (·.1)).Nodup := hkeys ▸ htakes.1
        refine Kind.record_onward hadmits (takes_iff.2 ⟨hnodup, fun _ _ => nofun, ?_⟩) ?_
        · exact forall_mem_replaced (fun _ => ⟨s, hs, rfl, hw⟩) htakes.2.2
        · intro s' hs'
          -- the exchanged value is seen by the setting with its key alone
          by_cases hkey : s'.key = s.key
          · obtain rfl := List.inj_on_of_nodup_map hdistinct hs' hs hkey
            have hthere : ∀ u, (s'.key, u) ∈ front ++ (s'.key, u) :: back :=
              fun u => List.mem_append_right _ List.mem_cons_self
            unfold Setting.value?
            rw [(lookup_eq_some_iff_mem htakes.1).2 (hthere v),
              (lookup_eq_some_iff_mem hnodup).2 (hthere w)]
            exact congrArg some hcomplete
          · have hne : (s'.key == s.key) = false := by simpa using hkey
            apply Setting.value_of_lookup
            rw [List.lookup_append, List.lookup_append, List.lookup_cons, List.lookup_cons, hne]
  agreed := by
    intro v w h hagreed
    induction h with
    | refl v => exact hagreed
    | trans _ _ ih ih' => exact ih' (ih hagreed)
    | item => cases hagreed
    | keys hperm =>
        rw [Kind.record_agreed_iff] at hagreed ⊢
        exact fun m hm => hagreed m (hperm.mem_iff.2 hm)
    | member front key back h ih =>
        rw [Kind.record_agreed_iff] at hagreed ⊢
        refine forall_mem_replaced ?_ hagreed
        intro hv s hs hkey
        exact (hsettings s hs).agreed h (hv s hs hkey)
  distinct := by
    intro v hadmits
    cases v with
    | object members =>
        have htakes := takes_iff.1 (Kind.record_admits_iff.1 hadmits).1
        refine Bool.and_eq_true_iff.2 ⟨decide_eq_true htakes.1, ?_⟩
        refine Json.keysDistinctMembers_iff.2 fun m hm => ?_
        obtain ⟨s, hs, -, hadmits⟩ := htakes.2.2 m hm
        exact (hsettings s hs).distinct hadmits
    | _ => cases hadmits

end Document

end GaleraProxy
