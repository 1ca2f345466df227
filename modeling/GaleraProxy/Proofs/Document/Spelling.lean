import GaleraProxy.Proofs.Document.Order

/-!
# Records that leave out their defaults

A record may be written with or without a setting that has its default. `Kind.Spells` says that a
value is of its kind and comes to a full value, and `Kind.record_spells` that a record does so if
each of its settings is either written out or left out with its default.
-/

namespace GaleraProxy.Document

/-- A value of a kind that comes to a full value, in every notation. -/
structure Kind.Spells (kind : Kind) (v full : Json) : Prop where
  admits : kind.admits v = true
  agreed : kind.agreed v = true
  complete : kind.complete v = full

/-- A setting of a record with its value in full and what is written of it, if anything. -/
structure Spelling where
  setting : Setting
  written : Option Json
  full : Json

namespace Spelling

/-- What is written comes to the full value, and what is not written has it by default. -/
def Right (p : Spelling) : Prop :=
  match p.written with
  | some v => p.setting.kind.Spells v p.full
  | none => p.setting.default = some p.full

/-- The member that is written, if there is one. -/
def member? (p : Spelling) : Option (String × Json) := p.written.map (p.setting.key, ·)

/-- The member with the value in full. -/
def fullMember (p : Spelling) : String × Json := (p.setting.key, p.full)

/-- A member that is written has the key of its setting. -/
theorem key_of_member {p : Spelling} {m : String × Json} (h : p.member? = some m) :
    m.1 = p.setting.key := by
  obtain ⟨v, -, rfl⟩ := Option.map_eq_some_iff.1 h
  rfl

end Spelling

variable {spellings : List Spelling}

/-- The keys that are written are among those of the settings, in their order. -/
theorem keys_sublist (spellings : List Spelling) :
    ((spellings.filterMap Spelling.member?).map (·.1)).Sublist
      (spellings.map (·.setting.key)) := by
  induction spellings with
  | nil => exact .slnil
  | cons p spellings ih =>
      cases hmember : p.member? with
      | none =>
          rw [List.filterMap_cons_none hmember]
          exact ih.cons _
      | some m =>
          rw [List.filterMap_cons_some hmember, List.map_cons, List.map_cons,
            Spelling.key_of_member hmember]
          exact ih.cons_cons _

/-- A key leads to what is written of its setting. -/
theorem lookup_spelling (hdistinct : (spellings.map (·.setting.key)).Nodup) {p : Spelling}
    (hp : p ∈ spellings) :
    (spellings.filterMap Spelling.member?).lookup p.setting.key = p.written := by
  have hnodup := hdistinct.sublist (keys_sublist spellings)
  ext v
  rw [lookup_eq_some_iff_mem hnodup, List.mem_filterMap]
  constructor
  · rintro ⟨q, hq, hmember⟩
    have hkey : p.setting.key = q.setting.key := Spelling.key_of_member hmember
    obtain rfl := List.inj_on_of_nodup_map hdistinct hp hq hkey
    obtain ⟨u, hu, heq⟩ := Option.map_eq_some_iff.1 hmember
    cases heq
    exact hu
  · intro hv
    exact ⟨p, hp, by rw [Spelling.member?, hv]; rfl⟩

/-- A record whose settings are rightly written or left out is of its kind and comes to the record
with all of them in full. -/
theorem Kind.record_spells (spellings : List Spelling)
    (hdistinct : (spellings.map (·.setting.key)).Nodup)
    (hright : ∀ p ∈ spellings, p.Right) :
    (Kind.record (spellings.map (·.setting))).Spells
      (.object (spellings.filterMap Spelling.member?))
      (.object (spellings.map Spelling.fullMember)) := by
  have hsettings : ((spellings.map (·.setting)).map (·.key)).Nodup := by
    rw [List.map_map]
    exact hdistinct
  have hvalue : ∀ p ∈ spellings,
      p.setting.value? (spellings.filterMap Spelling.member?) = some p.full := by
    intro p hp
    have hp' := hright p hp
    unfold Setting.value?
    rw [lookup_spelling hdistinct hp]
    unfold Spelling.Right at hp'
    cases hwritten : p.written with
    | none =>
        rw [hwritten] at hp'
        exact hp'
    | some v =>
        rw [hwritten] at hp'
        exact congrArg some hp'.complete
  have hspells : ∀ p ∈ spellings, ∀ v, p.written = some v → p.setting.kind.Spells v p.full := by
    intro p hp v hv
    have hp' := hright p hp
    unfold Spelling.Right at hp'
    rw [hv] at hp'
    exact hp'
  -- the keys are distinct, what is written is of its kind and every setting has a value; then the
  -- notations agree on what is written, and filled in it is the record in full
  refine ⟨Kind.record_admits_iff.2 ⟨takes_iff.2 ⟨?_, fun _ _ => nofun, ?_⟩, ?_⟩, ?_, ?_⟩
  · exact hdistinct.sublist (keys_sublist spellings)
  · intro m hm
    obtain ⟨p, hp, hmember⟩ := List.mem_filterMap.1 hm
    obtain ⟨v, hv, rfl⟩ := Option.map_eq_some_iff.1 hmember
    exact ⟨p.setting, List.mem_map_of_mem hp, rfl, (hspells p hp v hv).admits⟩
  · intro s hs
    obtain ⟨p, hp, rfl⟩ := List.mem_map.1 hs
    rw [hvalue p hp]
    rfl
  · refine Kind.record_agreed_iff.2 fun m hm s hs hkey => ?_
    obtain ⟨p, hp, hmember⟩ := List.mem_filterMap.1 hm
    obtain ⟨v, hv, rfl⟩ := Option.map_eq_some_iff.1 hmember
    obtain rfl := List.inj_on_of_nodup_map hsettings hs (List.mem_map_of_mem hp) hkey
    exact (hspells p hp v hv).agreed
  · refine congrArg Json.object ?_
    rw [List.map_map]
    refine List.map_congr_left fun p hp => ?_
    show (p.setting.key, _) = (p.setting.key, _)
    rw [hvalue p hp]
    rfl

/-- A member of an object is where its key leads. -/
theorem member_object (members : List (String × Json)) (key : String) :
    (Json.object members).member? key = members.lookup key := by
  show (members.find? fun m => m.1 == key).map (·.2) = members.lookup key
  induction members with
  | nil => rfl
  | cons m members ih =>
      rw [List.find?_cons, List.lookup_cons]
      by_cases hkey : key = m.1
      · simp [hkey]
      · have hne : (key == m.1) = false := by simpa using hkey
        have hne' : (m.1 == key) = false := by simpa using Ne.symm hkey
        rw [hne, hne']
        exact ih

/-- What a document leaves out of some settings has its default in the document in full. -/
def LeavesOutDefaults (settings : List Setting) (document full : Json) : Prop :=
  ∀ s ∈ settings, document.member? s.key = none →
    s.default ≠ none ∧ full.member? s.key = s.default

/-- A record that comes to a full one leaves out defaults only. -/
theorem Kind.Spells.leavesOutDefaults {settings : List Setting}
    (hdistinct : (settings.map (·.key)).Nodup) {document full : Json}
    (h : (Kind.record settings).Spells document full) :
    LeavesOutDefaults settings document full := by
  obtain ⟨hadmits, -, rfl⟩ := h
  cases document with
  | object members =>
      intro s hs habsent
      rw [member_object] at habsent
      have hvalue : s.value? members = s.default := by
        unfold Setting.value?
        rw [habsent]
      have hsome := (Kind.record_admits_iff.1 hadmits).2 s hs
      obtain ⟨v, hv⟩ := Option.isSome_iff_exists.1 hsome
      refine ⟨by rw [← hvalue, hv]; exact nofun, ?_⟩
      show (Json.object _).member? s.key = s.default
      have hkeys :
          ((settings.map fun s => (s.key, (s.value? members).getD .null)).map (·.1)).Nodup := by
        rw [List.map_map]
        exact hdistinct
      rw [member_object, ← hvalue, hv, lookup_eq_some_iff_mem hkeys]
      exact List.mem_map.2 ⟨s, hs, by rw [hv]; rfl⟩
  | _ => cases hadmits

/-- A list is of its kind if its items are. -/
theorem Kind.list_spells {kind : Kind} {α : Type} {write full : α → Json} {as : List α}
    (h : ∀ a ∈ as, kind.Spells (write a) (full a)) :
    (Kind.list kind).Spells (.list (as.map write)) (.list (as.map full)) := by
  refine ⟨Kind.list_admits_iff.2 ?_, Kind.list_agreed_iff.2 ?_, ?_⟩
  · rw [List.forall_mem_map]
    exact fun a ha => (h a ha).admits
  · rw [List.forall_mem_map]
    exact fun a ha => (h a ha).agreed
  · show Json.list ((as.map write).map kind.complete) = _
    rw [List.map_map]
    exact congrArg Json.list (List.map_congr_left fun a ha => (h a ha).complete)

theorem Kind.text_spells (s : String) : Kind.text.Spells (.text s) (.text s) := ⟨rfl, rfl, rfl⟩

theorem Kind.flag_spells (b : Bool) : Kind.flag.Spells (.bool b) (.bool b) := ⟨rfl, rfl, rfl⟩

theorem Kind.below_spells {n bound : Nat} (h : n < bound) :
    (Kind.below bound).Spells (.nat n) (.nat n) :=
  ⟨Kind.below_admits_iff.2 ⟨Int.natCast_nonneg n, Int.ofNat_lt.2 h⟩, rfl, rfl⟩

theorem Kind.port_spells (p : UInt16) :
    Kind.port.Spells (Config.portJson p) (Config.portJson p) :=
  Kind.below_spells p.toNat_lt

theorem Kind.word_spells (n : UInt64) :
    Kind.word.Spells (Config.wordJson n) (Config.wordJson n) :=
  Kind.below_spells n.toNat_lt

end GaleraProxy.Document
