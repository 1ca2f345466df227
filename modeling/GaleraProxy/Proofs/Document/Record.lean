import GaleraProxy.Proofs.Basic
import GaleraProxy.Proofs.Document.Reading
import Mathlib.Data.List.Nodup

/-!
# Records and the settings that they read

`Shape.Builds` relates the shape of a record to a list of settings: every field puts the value of
its setting into the draft, the empty draft holds the defaults, and a draft is finished if nothing
is missing in it. `Shape.Builds.reads` concludes that such a shape reads the records made of the
settings. The draft is only known by what it holds at each key, so that the order in which the keys
come cannot matter.
-/

namespace GaleraProxy.Document

variable {ε δ α : Type} {depth : Nat} {held : δ → List (String × Option Json)}

/-- What is held at a key takes the place of what was held there. -/
def put (key : String) (v : Json) (slots : List (String × Option Json)) :
    List (String × Option Json) :=
  slots.map fun slot => if slot.1 = key then (slot.1, some v) else slot

/-- The members of a record once something is held at every key. -/
def filled? : List (String × Option Json) → Option (List (String × Json))
  | [] => some []
  | (key, slot) :: slots => do
      let v ← slot
      let members ← filled? slots
      pure ((key, v) :: members)

/-- A field that puts the value of a setting into the draft and leaves everything else in it. -/
structure Field.Sets (depth : Nat) (held : δ → List (String × Option Json)) (field : Field ε δ)
    (s : Setting) : Prop where
  key : field.name = s.key
  refuses : ∀ {path node v draft fault}, Shows depth node v → s.kind.agreed v = true →
    field.read path node draft = .error fault → s.kind.admits v = false
  takes : ∀ {path node v draft draft'}, Shows depth node v → s.kind.agreed v = true →
    field.read path node draft = .ok draft' →
      s.kind.admits v = true ∧ held draft' = put s.key (s.kind.complete v) (held draft)

/-- A shape that builds records out of the values of settings. -/
structure Shape.Builds (depth : Nat) (held : δ → List (String × Option Json))
    (settings : List Setting) (write : α → Json) (shape : Shape ε δ α) : Prop where
  strict : shape.strict = true
  sets : List.Forall₂ (Field.Sets depth held) shape.fields settings
  distinct : (settings.map (·.key)).Nodup
  empty : held shape.empty = settings.map fun s => (s.key, s.default)
  finish : ∀ draft, (shape.finish draft).toOption.map write = (filled? (held draft)).map .object

/-- A field that stores what a reader of the kind reads. -/
theorem Reads.sets {β : Type} {key : String} {kind : Kind} {default : Option Json}
    {write : β → Json} {read : Path → Node ε → Reading ε β} (h : Reads depth kind write read)
    (store : δ → β → δ) (hstore : ∀ d b, held (store d b) = put key (write b) (held d)) :
    Field.Sets depth held ⟨key, fun path n d => do pure (store d (← read path n))⟩
      ⟨key, kind, default⟩ where
  key := rfl
  refuses := by
    intro path node v draft fault hshows hagreed hread
    have hfits := h path node v hshows hagreed
    cases hr : read path node with
    | error other =>
        rw [hr] at hfits
        exact hfits
    | ok b =>
        simp only [hr] at hread
        cases hread
  takes := by
    intro path node v draft draft' hshows hagreed hread
    have hfits := h path node v hshows hagreed
    cases hr : read path node with
    | error other =>
        simp only [hr] at hread
        cases hread
    | ok b =>
        rw [hr] at hfits
        simp only [hr] at hread
        cases hread
        refine ⟨hfits.1, ?_⟩
        rw [← hfits.2]
        exact hstore draft b

/-! ## The fields of a shape -/

/-- A key that has no field is the key of no setting. -/
theorem find_field_none {fields : List (Field ε δ)} {settings : List Setting} {key : String}
    (h : List.Forall₂ (Field.Sets depth held) fields settings)
    (hfind : (fields.find? fun f => f.name == key) = none) : ∀ s ∈ settings, s.key ≠ key := by
  induction h with
  | nil => exact nofun
  | cons hfield _ ih =>
      rw [List.find?_cons] at hfind
      split at hfind
      · cases hfind
      · rename_i hne
        intro s hs
        cases hs with
        | head => simpa [hfield.key] using hne
        | tail _ hs => exact ih hfind s hs

/-- The field with a key sets the setting with that key. -/
theorem find_field_some {fields : List (Field ε δ)} {settings : List Setting} {key : String}
    {field : Field ε δ} (h : List.Forall₂ (Field.Sets depth held) fields settings)
    (hfind : (fields.find? fun f => f.name == key) = some field) :
    ∃ s ∈ settings, s.key = key ∧ field.Sets depth held s := by
  induction h with
  | nil => cases hfind
  | cons hfield _ ih =>
      rw [List.find?_cons] at hfind
      split at hfind
      · rename_i heq
        cases hfind
        refine ⟨_, List.mem_cons_self, ?_, hfield⟩
        simpa [hfield.key] using heq
      · obtain ⟨s, hs, hkey, hsets⟩ := ih hfind
        exact ⟨s, List.mem_cons_of_mem _ hs, hkey, hsets⟩

/-! ## The members of a record -/

/-- The members are taken one after another: none has a key that was seen before, and each is of the
kind of its setting. -/
def Takes (settings : List Setting) : List String → List (String × Json) → Prop
  | _, [] => True
  | seen, (key, v) :: members =>
      key ∉ seen ∧ (∃ s ∈ settings, s.key = key ∧ s.kind.admits v = true) ∧
        Takes settings (key :: seen) members

/-- Members are taken if their keys are new and distinct and their values of the right kinds. -/
theorem takes_iff {settings : List Setting} {seen : List String} {members : List (String × Json)} :
    Takes settings seen members ↔
      (members.map (·.1)).Nodup ∧ (∀ m ∈ members, m.1 ∉ seen) ∧
        ∀ m ∈ members, ∃ s ∈ settings, s.key = m.1 ∧ s.kind.admits m.2 = true := by
  induction members generalizing seen with
  | nil => simp [Takes]
  | cons m members ih =>
      obtain ⟨key, v⟩ := m
      rw [Takes, ih, List.map_cons, List.nodup_cons, List.forall_mem_cons, List.forall_mem_cons]
      constructor
      · rintro ⟨hseen, hkind, hnodup, hnew, hkinds⟩
        refine ⟨⟨?_, hnodup⟩, ⟨hseen, ?_⟩, hkind, hkinds⟩
        · intro hin
          obtain ⟨m, hm, hkey⟩ := List.mem_map.1 hin
          exact hnew m hm (hkey ▸ List.mem_cons_self)
        · exact fun m hm hin => hnew m hm (List.mem_cons_of_mem _ hin)
      · rintro ⟨⟨hnot, hnodup⟩, ⟨hseen, hnew⟩, hkind, hkinds⟩
        refine ⟨hseen, hkind, hnodup, fun m hm hin => ?_, hkinds⟩
        cases hin with
        | head => exact hnot (List.mem_map_of_mem (f := (·.1)) hm)
        | tail _ hin => exact hnew m hm hin

/-- A key that was seen before is not that of a member that is taken. -/
theorem Takes.lookup_eq_none {settings : List Setting} {seen : List String} {key : String}
    {members : List (String × Json)} (h : Takes settings (key :: seen) members) :
    members.lookup key = none := by
  rw [List.lookup_eq_none_iff]
  intro m hm
  have hnew := (takes_iff.1 h).2.1 m hm
  simp only [List.mem_cons, not_or] at hnew
  simpa using Ne.symm hnew.1

/-- A record is a document whose members are taken and that has all that is required. -/
theorem Kind.record_admits_iff {settings : List Setting} {members : List (String × Json)} :
    (Kind.record settings).admits (.object members) = true ↔
      Takes settings [] members ∧ ∀ s ∈ settings, (s.value? members).isSome = true := by
  simp [Kind.record, takes_iff, and_assoc]

/-- What is put at the key of a setting is held there instead of what was there before. -/
theorem put_map {settings : List Setting} (s : Setting) (v : Json) (f : Setting → Option Json) :
    put s.key v (settings.map fun s' => (s'.key, f s')) =
      settings.map fun s' => (s'.key, if s'.key = s.key then some v else f s') := by
  unfold put
  rw [List.map_map]
  refine List.map_congr_left fun s' _ => ?_
  by_cases hkey : s'.key = s.key <;> simp [hkey]

/-- Settings with a value each fill a record. -/
theorem filled_of_isSome {settings : List Setting} {f : Setting → Option Json}
    (h : ∀ s ∈ settings, (f s).isSome = true) :
    filled? (settings.map fun s => (s.key, f s)) =
      some (settings.map fun s => (s.key, (f s).getD .null)) := by
  induction settings with
  | nil => rfl
  | cons s settings ih =>
      rw [List.forall_mem_cons] at h
      obtain ⟨v, hv⟩ := Option.isSome_iff_exists.1 h.1
      simp [filled?, hv, ih h.2]

/-- A setting without a value keeps a record from being filled. -/
theorem isSome_of_filled {settings : List Setting} {f : Setting → Option Json}
    {members : List (String × Json)}
    (h : filled? (settings.map fun s => (s.key, f s)) = some members) :
    ∀ s ∈ settings, (f s).isSome = true := by
  induction settings generalizing members with
  | nil => exact nofun
  | cons s settings ih =>
      simp only [List.map_cons, filled?, Option.bind_eq_bind, Option.bind_eq_some_iff] at h
      obtain ⟨v, hv, others, hothers, -⟩ := h
      rw [List.forall_mem_cons]
      exact ⟨Option.isSome_iff_exists.2 ⟨v, hv⟩, ih hothers⟩

/-- What reading members makes of a draft that holds `f` at the settings: a draft that holds the
values of the members where there are any, and is otherwise as it was, or a fault if the members are
not taken. -/
def Collects (held : δ → List (String × Option Json)) (settings : List Setting)
    (seen : List String) (members : List (String × Json)) (f : Setting → Option Json) :
    Reading ε δ → Prop
  | .ok last => Takes settings seen members ∧ held last = settings.map fun s =>
      (s.key, match members.lookup s.key with
        | some v => some (s.kind.complete v)
        | none => f s)
  | .error _ => ¬ Takes settings seen members

/-- The notations agree on a record if they do on the values of its settings. -/
theorem Kind.record_agreed_iff {settings : List Setting} {members : List (String × Json)} :
    (Kind.record settings).agreed (.object members) = true ↔
      ∀ m ∈ members, ∀ s ∈ settings, s.key = m.1 → s.kind.agreed m.2 = true := by
  simp only [Kind.record, List.all_eq_true, Bool.or_eq_true, bne_iff_ne, ← imp_iff_not_or]

section
variable {settings : List Setting} {write : α → Json} {shape : Shape ε δ α}

/-- Settings of a record are told apart by their keys. -/
theorem Shape.Builds.eq_of_key (h : shape.Builds depth held settings write) {s s' : Setting}
    (hs : s ∈ settings) (hs' : s' ∈ settings) (hkey : s.key = s'.key) : s = s' :=
  List.inj_on_of_nodup_map h.distinct hs hs' hkey

section
variable {path : Path} {owner span : Span} {scalar : Scalar} {key : String} {value : Node ε}
  {entries : List (Node ε × Node ε)} {seen : List String} {draft : δ}

/-- An unknown key is refused by a strict shape. -/
theorem readEntries_unknown (hstrict : shape.strict = true) (written : scalar.written? = some key)
    (hfind : (shape.fields.find? fun f => f.name == key) = none) :
    ∃ fault, shape.readEntries path owner none ((.scalar span scalar, value) :: entries) seen
      draft = .error fault := by
  unfold Shape.readEntries
  simp only [readText_of_written written, bind, Except.bind, hfind, hstrict, if_true]
  exact ⟨_, rfl⟩

/-- An unknown key is passed over by a shape that is not strict. -/
theorem readEntries_passed (hlax : shape.strict = false) (written : scalar.written? = some key)
    (hfind : (shape.fields.find? fun f => f.name == key) = none) (hwhole : ∀ e, value ≠ .broken e) :
    shape.readEntries path owner none ((.scalar span scalar, value) :: entries) seen draft =
      shape.readEntries path owner none entries seen draft := by
  conv_lhs => unfold Shape.readEntries
  simp only [readText_of_written written, bind, Except.bind, hfind, hlax, Bool.false_eq_true,
    if_false]

/-- A repeated key is refused. -/
theorem readEntries_repeated {field : Field ε δ} (written : scalar.written? = some key)
    (hfind : (shape.fields.find? fun f => f.name == key) = some field) (hseen : key ∈ seen) :
    ∃ fault, shape.readEntries path owner none ((.scalar span scalar, value) :: entries) seen
      draft = .error fault := by
  unfold Shape.readEntries
  simp only [readText_of_written written, bind, Except.bind, hfind, List.contains_iff_mem.2 hseen,
    if_true]
  exact ⟨_, rfl⟩

/-- The value of a new key goes to its field. -/
theorem readEntries_known {field : Field ε δ} (written : scalar.written? = some key)
    (hfind : (shape.fields.find? fun f => f.name == key) = some field) (hseen : key ∉ seen) :
    shape.readEntries path owner none ((.scalar span scalar, value) :: entries) seen draft =
      (field.read (.key key :: path) value draft).bind fun draft =>
        shape.readEntries path owner none entries (key :: seen) draft := by
  have hnew : seen.contains key = false := by simpa using hseen
  conv_lhs => unfold Shape.readEntries
  simp only [readText_of_written written, bind, Except.bind, hfind, hnew, Bool.false_eq_true,
    if_false]

/-- An entry of a field is read if its key is new and its value is one of the field. -/
theorem readEntries_eq_ok_iff {field : Field ε δ} {last : δ} (written : scalar.written? = some key)
    (hfind : (shape.fields.find? fun f => f.name == key) = some field) :
    shape.readEntries path owner none ((.scalar span scalar, value) :: entries) seen draft =
        .ok last ↔
      key ∉ seen ∧ ∃ next, field.read (.key key :: path) value draft = .ok next ∧
        shape.readEntries path owner none entries (key :: seen) next = .ok last := by
  by_cases hseen : key ∈ seen
  · obtain ⟨fault, hfault⟩ : ∃ fault, shape.readEntries path owner none
        ((.scalar span scalar, value) :: entries) seen draft = .error fault :=
      readEntries_repeated written hfind hseen
    rw [hfault]
    exact ⟨nofun, fun h => absurd hseen h.1⟩
  · rw [readEntries_known written hfind hseen]
    exact bind_eq_ok_iff.trans ⟨fun h => ⟨hseen, h⟩, fun h => h.2⟩

/-- Entries are not read where the table breaks off. -/
theorem readEntries_ne_ok {e : ε} {last : δ} :
    shape.readEntries path owner (some e) entries seen draft ≠ .ok last := by
  induction entries generalizing seen draft with
  | nil => nofun
  | cons entry entries ih =>
      intro h
      unfold Shape.readEntries at h
      obtain ⟨name, -, h⟩ := bind_eq_ok_iff.mp h
      split at h
      · split at h
        · cases h
        · split at h
          · cases h
          · exact ih h
      · split at h
        · cases h
        · obtain ⟨next, -, h⟩ := bind_eq_ok_iff.mp h
          exact ih h

end

/-- What the entries after the first come to decides about all of them, once the first has been
taken. -/
theorem Shape.Builds.member (h : shape.Builds depth held settings write) {path : Path}
    {s : Setting} (hs : s ∈ settings) {field : Field ε δ} (hsets : field.Sets depth held s)
    {value : Node ε} {v : Json} (hvalue : Shows depth value v) (hagreed : s.kind.agreed v = true)
    {seen : List String} (hseen : s.key ∉ seen) {members : List (String × Json)}
    {readRest : δ → Reading ε δ} {draft : δ} {f : Setting → Option Json}
    (hdraft : held draft = settings.map fun s => (s.key, f s))
    (hrest : ∀ draft f, held draft = (settings.map fun s => (s.key, f s)) →
      Collects held settings (s.key :: seen) members f (readRest draft)) :
    Collects held settings seen ((s.key, v) :: members) f
      ((field.read path value draft).bind readRest) := by
  cases hread : field.read path value draft with
  | error fault =>
      rintro ⟨-, ⟨s', hs', hkey, hadmits⟩, -⟩
      obtain rfl := h.eq_of_key hs' hs hkey
      rw [hsets.refuses hvalue hagreed hread] at hadmits
      cases hadmits
  | ok first =>
      obtain ⟨hadmits, hfirst⟩ := hsets.takes hvalue hagreed hread
      rw [hdraft, put_map] at hfirst
      have hcollects := hrest first _ hfirst
      show Collects held settings seen ((s.key, v) :: members) f (readRest first)
      cases hreads : readRest first with
      | error fault =>
          rw [hreads] at hcollects
          rintro ⟨-, -, htakes⟩
          exact hcollects htakes
      | ok last =>
          rw [hreads] at hcollects
          obtain ⟨htakes, hlast⟩ := hcollects
          refine ⟨⟨hseen, ⟨s, hs, rfl, hadmits⟩, htakes⟩, hlast.trans ?_⟩
          refine List.map_congr_left fun s' hs' => ?_
          by_cases hkey : s'.key = s.key
          · obtain rfl := h.eq_of_key hs' hs hkey
            -- the key does not come again, so that the draft keeps what the first entry put there
            rw [htakes.lookup_eq_none, List.lookup_cons_self]
            simp only [if_true]
          · have hne : (s'.key == s.key) = false := by simpa using hkey
            rw [List.lookup_cons, hne]
            simp only [if_neg hkey]

/-- The entries of a table are read exactly if the members are taken. The draft then holds the
value of every member and is otherwise as it was. The induction is on the members, for every draft.
-/
theorem Shape.Builds.entries (h : shape.Builds depth held settings write) (path : Path)
    (owner : Span) {entries : List (Node ε × Node ε)} {members : List (String × Json)}
    (hshows : ShowsEntries depth entries members)
    (hagreed : ∀ m ∈ members, ∀ s ∈ settings, s.key = m.1 → s.kind.agreed m.2 = true)
    (seen : List String) (draft : δ) (f : Setting → Option Json)
    (hdraft : held draft = settings.map fun s => (s.key, f s)) :
    Collects held settings seen members f
      (shape.readEntries path owner none entries seen draft) := by
  induction members generalizing entries seen draft f with
  | nil =>
      cases hshows
      exact ⟨trivial, hdraft⟩
  | cons m members ih =>
      obtain ⟨key, v⟩ := m
      cases hshows with
      | cons span written hvalue hentries =>
          rename_i scalar value entries
          rw [List.forall_mem_cons] at hagreed
          cases hfind : shape.fields.find? fun f => f.name == key with
          | none =>
              obtain ⟨fault, hfault⟩ : ∃ fault, shape.readEntries path owner none
                  ((.scalar span scalar, value) :: entries) seen draft = .error fault :=
                readEntries_unknown h.strict written hfind
              rw [hfault]
              rintro ⟨-, ⟨s, hs, hkey, -⟩, -⟩
              exact find_field_none h.sets hfind s hs hkey
          | some field =>
              obtain ⟨s, hs, rfl, hsets⟩ := find_field_some h.sets hfind
              by_cases hseen : s.key ∈ seen
              · obtain ⟨fault, hfault⟩ : ∃ fault, shape.readEntries path owner none
                    ((.scalar span scalar, value) :: entries) seen draft = .error fault :=
                  readEntries_repeated written hfind hseen
                rw [hfault]
                exact fun htakes => htakes.1 hseen
              · rw [readEntries_known written hfind hseen]
                exact h.member hs hsets hvalue (hagreed.1 s hs rfl) hseen hdraft
                  (ih hentries hagreed.2 (s.key :: seen))

/-- A shape that builds the records made of some settings reads them. -/
theorem Shape.Builds.reads (h : shape.Builds depth held settings write) (d : Dialect) :
    Reads (depth + 1) (.record settings) write (shape.read d) := by
  intro path node v hshows hagreed
  cases hshows with
  | scalar span full htells =>
      rename_i s
      have hread : shape.read d path (.scalar span s) =
          wrongType path (.scalar span s) (.record shape.name) := if_neg (by simp [full])
      rw [hread]
      cases htells with
      | flag b reading => exact .of_wrongType rfl
      | whole n reading => exact .of_wrongType rfl
      | text t reading written => exact .of_wrongType rfl
  | list span items => cases hagreed
  | table span hentries =>
      rename_i entries members
      have hcollects := h.entries path span hentries (Kind.record_agreed_iff.1 hagreed) []
        shape.empty (·.default) h.empty
      show (Kind.record settings).Fits write (.object members)
        ((shape.readEntries path span none entries [] shape.empty).bind fun draft =>
          shape.finishTable path span draft)
      cases hread : shape.readEntries path span none entries [] shape.empty with
      | error fault =>
          rw [hread] at hcollects
          exact Bool.eq_false_iff.2 fun hadmits => hcollects (Kind.record_admits_iff.1 hadmits).1
      | ok draft =>
          rw [hread] at hcollects
          obtain ⟨htakes, hdraft⟩ := hcollects
          -- what was not given is still as in the empty draft, so it has its default
          change held draft = settings.map fun s => (s.key, s.value? members) at hdraft
          show (Kind.record settings).Fits write (.object members)
            (shape.finishTable path span draft)
          have hfinish := h.finish draft
          rw [hdraft] at hfinish
          unfold Shape.finishTable
          cases hdone : shape.finish draft with
          | error missing =>
              rw [hdone] at hfinish
              refine Bool.eq_false_iff.2 fun hadmits => ?_
              rw [filled_of_isSome (Kind.record_admits_iff.1 hadmits).2] at hfinish
              cases hfinish
          | ok a =>
              rw [hdone] at hfinish
              obtain ⟨filled, hfilled, hwrite⟩ := Option.map_eq_some_iff.1 hfinish.symm
              have hsome := isSome_of_filled hfilled
              rw [filled_of_isSome hsome] at hfilled
              cases hfilled
              exact ⟨Kind.record_admits_iff.2 ⟨htakes, hsome⟩, hwrite.symm⟩

end

end GaleraProxy.Document
