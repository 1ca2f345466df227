import GaleraProxy.Monitor.Reply
import GaleraProxy.Proofs.Document.Record
import GaleraProxy.Proofs.Json.Reading

/-!
# Which answers are believed

An agent is believed on a status of 200 and a body that is written as `AgentStatus.Writes` says.
This is a matter of the bytes of the body alone and of the grammar of JSON: an object that says each
thing at most once, whatever else it says, or a list of what it says in order. Everything else is
rejected.
-/

namespace GaleraProxy

open Document Json Json.Grammar

namespace AgentStatus

/-! ## What an agent writes -/

/-- How it is written whether a node is healthy. -/
def IsFlag (s : List UInt8) (b : Bool) : Prop := s = flagBytes b

/-- How an index is written: in decimal, without a sign, a fraction or an exponent. -/
def IsIndex (s : List UInt8) (n : Nat) : Prop := n < UInt64.size ∧ s = digits n

/-- A member of an object, by the name that its key denotes and the bytes of its value. -/
def IsEntry (m : String × List UInt8) (s : List UInt8) : Prop :=
  IsMember (Denotes · (Utf8.encode m.1)) m.2 s ∧ IsValue m.2

/-- What the members of an object say under a name: what is written there if the name occurs once,
and the default if it does not occur. A name that is repeated says nothing. -/
def Says {α : Type} (IsWritten : List UInt8 → α → Prop) (name : String) (default : α)
    (members : List (String × List UInt8)) (a : α) : Prop :=
  match members.filter fun m => m.1 == name with
  | [] => a = default
  | [m] => IsWritten m.2 a
  | _ :: _ :: _ => False

/-- What the values of a list say in their order. -/
inductive Lists : List (List UInt8) → Bool → Nat → Prop where
  | nothing : Lists [] false 0
  | flag {v : List UInt8} {healthy : Bool} (hv : IsFlag v healthy) : Lists [v] healthy 0
  | both {v w : List UInt8} {healthy : Bool} {index : Nat} (hv : IsFlag v healthy)
      (hw : IsIndex w index) : Lists [v, w] healthy index

/-- A body that says whether a node is healthy and which index it has. -/
inductive Writes : List UInt8 → Bool → Nat → Prop where
  | object {before after s : List UInt8} {members : List (String × List UInt8)} {healthy : Bool}
      {index : Nat} (hbefore : IsBlank before) (hafter : IsBlank after)
      (hmembers : Series IsEntry true members s)
      (hhealthy : Says IsFlag "healthy" false members healthy)
      (hindex : Says IsIndex "wsrep_local_index" 0 members index) :
      Writes (before ++ 0x7B :: (s ++ 0x7D :: after)) healthy index
  | list {before after s : List UInt8} {vs : List (List UInt8)} {healthy : Bool} {index : Nat}
      (hbefore : IsBlank before) (hafter : IsBlank after) (hitems : Series Eq true vs s)
      (h : Lists vs healthy index) : Writes (before ++ 0x5B :: (s ++ 0x5D :: after)) healthy index

theorem entry_begins {m : String × List UInt8} {s : List UInt8} (h : IsEntry m s) :
    ∃ tail, s = 0x22 :: tail := by
  obtain ⟨⟨key, before, after, rfl, -⟩, -⟩ := h
  exact ⟨_, rfl⟩

/-! ## Names that occur once -/

section
variable {α : Type} {IsWritten : List UInt8 → α → Prop} {name : String} {x a : α}
  {v : List UInt8} {m : String × List UInt8} {members : List (String × List UInt8)}
  {seen : List String}

theorem filter_name_eq_nil_iff :
    (members.filter fun m => m.1 == name) = [] ↔ ∀ m ∈ members, m.1 ≠ name := by
  simp [List.filter_eq_nil_iff]

/-- What members say under a name that may have occurred before them. -/
structure SaysAfter (IsWritten : List UInt8 → α → Prop) (seen : List String) (name : String)
    (default : α) (members : List (String × List UInt8)) (a : α) : Prop where
  said : Says IsWritten name default members a
  fresh : name ∈ seen → ∀ m ∈ members, m.1 ≠ name

theorem saysAfter_nil : SaysAfter IsWritten seen name x [] a ↔ a = x :=
  ⟨fun h => h.said, fun h => ⟨h, fun _ => by simp⟩⟩

/-- A member of another name says nothing. -/
theorem saysAfter_cons_of_ne (hne : m.1 ≠ name) (seen' : List String)
    (hseen : name ∈ seen' ↔ name ∈ seen) :
    SaysAfter IsWritten seen name x (m :: members) a ↔
      SaysAfter IsWritten seen' name x members a := by
  have hsaid : Says IsWritten name x (m :: members) a ↔ Says IsWritten name x members a := by
    unfold Says
    rw [List.filter_cons_of_neg (by simpa using hne)]
  constructor
  · rintro ⟨h, hfresh⟩
    exact ⟨hsaid.mp h, fun h => (List.forall_mem_cons.mp (hfresh (hseen.mp h))).2⟩
  · rintro ⟨h, hfresh⟩
    exact ⟨hsaid.mpr h, fun h => List.forall_mem_cons.mpr ⟨hne, hfresh (hseen.mpr h)⟩⟩

/-- A member of the name settles what is said. -/
theorem saysAfter_cons_self :
    SaysAfter IsWritten seen name x ((name, v) :: members) a ↔
      name ∉ seen ∧ ∃ y, IsWritten v y ∧ SaysAfter IsWritten (name :: seen) name y members a := by
  have hfilter : ((name, v) :: members).filter (fun m => m.1 == name) =
      (name, v) :: members.filter fun m => m.1 == name :=
    List.filter_cons_of_pos (beq_self_eq_true name)
  constructor
  · rintro ⟨h, hfresh⟩
    unfold Says at h
    rw [hfilter] at h
    have hnew : name ∉ seen := fun hseen => hfresh hseen _ List.mem_cons_self rfl
    cases hrest : members.filter fun m => m.1 == name with
    | nil =>
        rw [hrest] at h
        refine ⟨hnew, a, h, ?_, fun _ => filter_name_eq_nil_iff.mp hrest⟩
        unfold Says
        rw [hrest]
    | cons m others =>
        rw [hrest] at h
        exact h.elim
  · rintro ⟨hnew, y, hy, h, hfresh⟩
    have hrest := filter_name_eq_nil_iff.mpr (hfresh List.mem_cons_self)
    refine ⟨?_, fun hseen => absurd hseen hnew⟩
    unfold Says at h ⊢
    rw [hrest] at h
    rw [hfilter, hrest]
    exact h ▸ hy

end

/-! ## Members one after another -/

/-- What a member changes in what has been read, given the known names that came before it. -/
inductive Takes : List String → AgentStatus → String × List UInt8 → List String → AgentStatus →
    Prop where
  | healthy {seen : List String} {status : AgentStatus} {m : String × List UInt8} {b : Bool}
      (hm : m.1 = "healthy") (hnew : "healthy" ∉ seen) (hv : IsFlag m.2 b) :
      Takes seen status m ("healthy" :: seen) { status with healthy := b }
  | index {seen : List String} {status : AgentStatus} {m : String × List UInt8} {w : UInt64}
      (hm : m.1 = "wsrep_local_index") (hnew : "wsrep_local_index" ∉ seen)
      (hv : IsIndex m.2 w.toNat) :
      Takes seen status m ("wsrep_local_index" :: seen) { status with index := w }
  | other {seen : List String} {status : AgentStatus} {m : String × List UInt8}
      (hhealthy : m.1 ≠ "healthy") (hindex : m.1 ≠ "wsrep_local_index") :
      Takes seen status m seen status

/-- What members change one after another. -/
inductive TakesAll : List String → AgentStatus → List (String × List UInt8) → AgentStatus →
    Prop where
  | nil {seen : List String} {status : AgentStatus} : TakesAll seen status [] status
  | cons {seen seen' : List String} {status status' last : AgentStatus}
      {m : String × List UInt8} {members : List (String × List UInt8)}
      (hm : Takes seen status m seen' status') (hmembers : TakesAll seen' status' members last) :
      TakesAll seen status (m :: members) last

variable {seen seen' : List String} {status status' last : AgentStatus}
  {members : List (String × List UInt8)}

/-- All members are taken exactly if each of the two names is said at most once. -/
theorem takesAll_iff : TakesAll seen status members last ↔
    SaysAfter IsFlag seen "healthy" status.healthy members last.healthy ∧
      SaysAfter IsIndex seen "wsrep_local_index" status.index.toNat members last.index.toNat := by
  induction members generalizing seen status with
  | nil =>
      rw [saysAfter_nil, saysAfter_nil]
      constructor
      · intro h
        cases h
        exact ⟨rfl, rfl⟩
      · rintro ⟨hhealthy, hindex⟩
        obtain rfl : last = status := by
          cases last
          cases status
          exact congrArg₂ mk hhealthy (UInt64.toNat_inj.mp hindex)
        exact .nil
  | cons m members ih =>
      have hcons : TakesAll seen status (m :: members) last ↔
          ∃ seen' status', Takes seen status m seen' status' ∧
            TakesAll seen' status' members last :=
        ⟨fun | .cons hm h => ⟨_, _, hm, h⟩, fun ⟨_, _, hm, h⟩ => .cons hm h⟩
      simp only [hcons, ih]
      obtain ⟨name, v⟩ := m
      by_cases hhealthy : name = "healthy"
      · have hne : name ≠ "wsrep_local_index" := by rw [hhealthy]; decide
        have hpassed : SaysAfter IsIndex seen "wsrep_local_index" status.index.toNat
            ((name, v) :: members) last.index.toNat ↔ _ :=
          saysAfter_cons_of_ne hne ("healthy" :: seen) (by simp)
        rw [hpassed]
        subst hhealthy
        rw [saysAfter_cons_self]
        constructor
        · rintro ⟨seen', status', htakes, hflag, hindex⟩
          cases htakes with
          | healthy _ hnew hv => exact ⟨⟨hnew, _, hv, hflag⟩, hindex⟩
          | index hm => exact absurd hm hne
          | other hm => exact absurd rfl hm
        · rintro ⟨⟨hnew, b, hv, hflag⟩, hindex⟩
          exact ⟨_, _, .healthy rfl hnew hv, hflag, hindex⟩
      · by_cases hindex : name = "wsrep_local_index"
        · rw [saysAfter_cons_of_ne hhealthy ("wsrep_local_index" :: seen) (by simp)]
          subst hindex
          rw [saysAfter_cons_self]
          constructor
          · rintro ⟨seen', status', htakes, hflag, hindex⟩
            cases htakes with
            | healthy hm => exact absurd hm hhealthy
            | index _ hnew hv => exact ⟨hflag, hnew, _, hv, hindex⟩
            | other _ hm => exact absurd rfl hm
          · rintro ⟨hflag, hnew, n, hv, hindex⟩
            have hword : (UInt64.ofNat n).toNat = n := UInt64.toNat_ofNat_of_lt' hv.1
            rw [← hword] at hv hindex
            exact ⟨_, _, .index rfl hnew hv, hflag, hindex⟩
        · rw [saysAfter_cons_of_ne hhealthy seen Iff.rfl,
            saysAfter_cons_of_ne hindex seen Iff.rfl]
          constructor
          · rintro ⟨seen', status', htakes, hsaid⟩
            cases htakes with
            | healthy hm => exact absurd hm hhealthy
            | index hm => exact absurd hm hindex
            | other => exact hsaid
          · intro hsaid
            exact ⟨_, _, .other hhealthy hindex, hsaid⟩

/-! ## Members that are read -/

/-- How what is said of a node's health is read. -/
def healthyField : Field Error AgentStatus :=
  ⟨"healthy", fun path n d => do pure { d with healthy := ← readFlag path n }⟩

/-- How an index is read. -/
def indexField : Field Error AgentStatus :=
  ⟨"wsrep_local_index", fun path n d => do pure { d with index := ← readWord64 dialect path n }⟩

theorem find_field_healthy : ((shape dialect).fields.find? fun f => f.name == "healthy") =
    some healthyField := rfl

theorem find_field_other {name : String} (hhealthy : name ≠ "healthy")
    (hindex : name ≠ "wsrep_local_index") :
    ((shape (ε := Error) dialect).fields.find? fun f => f.name == name) = none := by
  simp [shape, hhealthy.symm, hindex.symm]

theorem find_field_index : ((shape dialect).fields.find? fun f => f.name == "wsrep_local_index") =
    some indexField := rfl

theorem plan_healthy : plan.entry? "healthy" = some .whole := rfl

theorem plan_index : plan.entry? "wsrep_local_index" = some .whole := rfl

theorem plan_other {name : String} (hhealthy : name ≠ "healthy")
    (hindex : name ≠ "wsrep_local_index") : plan.entry? name = none := by
  have hnone : ([("healthy", Plan.whole), ("wsrep_local_index", .whole)].find?
      fun m => m.1 == name) = none := by
    simp [hhealthy.symm, hindex.symm]
  simp only [plan, Plan.entry?, hnone, Option.map_none]

variable {input next : Input} {name : String} {fuel : Nat} {value : JsonNode} {path : Path}
  {owner span : Span} {entries : List (JsonNode × JsonNode)} {t : List UInt8}

/-- An entry that is read stands for a member that is taken. -/
theorem entry_sound (hvalue : entryValue fuel plan name input = (value, some next))
    (hread : (shape dialect).readEntries path owner none
      ((.scalar span (.text name), value) :: entries) seen status = .ok last) :
    ∃ before between v seen' status', IsBlank before ∧ IsBlank between ∧
      input.rest = before ++ 0x3A :: (between ++ (v ++ next.rest)) ∧ IsValue v ∧
      Takes seen status (name, v) seen' status' ∧
      (shape dialect).readEntries path owner none entries seen' status' = .ok last := by
  obtain ⟨before, inner, hbefore, hrest, hvalue⟩ := entryValue_sound hvalue
  by_cases hhealthy : name = "healthy"
  · subst hhealthy
    rw [plan_healthy] at hvalue
    obtain ⟨hnew, status', hfield, hread⟩ := (readEntries_eq_ok_iff rfl find_field_healthy).mp hread
    obtain ⟨b, hflag, hstatus⟩ := bind_eq_ok_iff.mp hfield
    obtain rfl := Except.ok.inj hstatus
    obtain ⟨between, after, hafter, hbetween, hinner⟩ := flag_sound hvalue hflag
    obtain rfl := Option.some.inj hafter
    exact ⟨before, between, flagBytes b, _, _, hbefore, hbetween, by rw [hrest, hinner],
      flagBytes_isValue b, .healthy rfl hnew rfl, hread⟩
  by_cases hindex : name = "wsrep_local_index"
  · subst hindex
    rw [plan_index] at hvalue
    obtain ⟨hnew, status', hfield, hread⟩ := (readEntries_eq_ok_iff rfl find_field_index).mp hread
    obtain ⟨w, hword, hstatus⟩ := bind_eq_ok_iff.mp hfield
    obtain rfl := Except.ok.inj hstatus
    obtain ⟨between, after, hafter, hbetween, hinner⟩ := word_sound hvalue hword
    obtain rfl := Option.some.inj hafter
    exact ⟨before, between, digits w.toNat, _, _, hbefore, hbetween, by rw [hrest, hinner],
      digits_isValue w.toNat, .index rfl hnew ⟨w.toNat_lt, rfl⟩, hread⟩
  · rw [plan_other hhealthy hindex] at hvalue
    obtain ⟨hskip, span', rfl⟩ := hvalue
    rw [readEntries_passed rfl rfl (find_field_other hhealthy hindex) (by simp)] at hread
    obtain ⟨between, v, hbetween, hv, hinner⟩ := skipValue_sound hskip
    exact ⟨before, between, v, _, _, hbefore, hbetween, by rw [hrest, hinner], hv,
      .other hhealthy hindex, hread⟩

/-- A member that is taken is read as an entry, if no number goes on after it. -/
theorem entry_complete {before between v : List UInt8} (hbefore : IsBlank before)
    (hbetween : IsBlank between) (hv : IsValue v) (ht : Ends t)
    (htakes : Takes seen status (name, v) seen' status')
    (h : input.rest = before ++ 0x3A :: (between ++ (v ++ t))) (fuel : Nat) :
    ∃ value next, entryValue (fuel + 1) plan name input = (value, some next) ∧ next.rest = t ∧
      ∀ path owner span entries,
        (shape dialect).readEntries path owner none entries seen' status' = .ok last →
          (shape dialect).readEntries path owner none
            ((.scalar span (.text name), value) :: entries) seen status = .ok last := by
  obtain ⟨inner, hcolon, hinner⟩ := colon_complete hbefore h
  generalize hm : (name, v) = m at htakes
  cases htakes with
  | @healthy b hname hnew hflag =>
      subst hm
      obtain rfl : name = "healthy" := hname
      obtain rfl : v = flagBytes b := hflag
      obtain ⟨span, next, hvalue, hnext⟩ := flag_complete between b hbetween hinner fuel
      refine ⟨_, next, (entryValue_known hcolon plan_healthy).trans hvalue, hnext, ?_⟩
      intro path owner span entries hread
      exact (readEntries_eq_ok_iff rfl find_field_healthy).mpr ⟨hnew, _, rfl, hread⟩
  | @index w hname hnew hindex =>
      subst hm
      obtain rfl : name = "wsrep_local_index" := hname
      obtain ⟨hfits, rfl : v = digits w.toNat⟩ := hindex
      obtain ⟨span, next, hvalue, hnext⟩ := word_complete between hfits hbetween ht hinner fuel
      refine ⟨_, next, (entryValue_known hcolon plan_index).trans hvalue, hnext, ?_⟩
      intro path owner span entries hread
      refine (readEntries_eq_ok_iff rfl find_field_index).mpr ⟨hnew, _, ?_, hread⟩
      exact bind_eq_ok_iff.mpr ⟨w, readWord64_toNat _ _ w, rfl⟩
  | other hhealthy hindex =>
      subst hm
      obtain ⟨next, hskip, hnext⟩ := skipValue_complete hbetween hv ht hinner
      refine ⟨_, next, entryValue_skipped _ hcolon (plan_other hhealthy hindex) hskip, hnext, ?_⟩
      intro path owner span entries hread
      exact (readEntries_passed rfl rfl (find_field_other hhealthy hindex) (by simp)).trans hread

/-- What the entries up to the end of an object stand for are members that are taken. -/
theorem entries_sound {first : Bool} {after : Input}
    (h : entryNodes fuel plan first input = (entries, .ok after))
    (hread : (shape dialect).readEntries path owner none entries seen status = .ok last) :
    ∃ members s, Series IsEntry first members s ∧ TakesAll seen status members last ∧
      input.rest = s ++ 0x7D :: after.rest := by
  induction fuel generalizing first input entries seen status with
  | zero => cases (Prod.mk.inj h).2
  | succ fuel ih =>
      rcases entryNodes_eq_ok_iff.mp h with ⟨hnext, rfl, rfl⟩ |
        ⟨item, name, key, colonAt, value, next, others, hnext, hkey, hvalue, hothers, rfl⟩
      · obtain ⟨before, hbefore, hrest⟩ := nextItem_sound hnext
        obtain rfl := Except.ok.inj hread
        exact ⟨[], before, .nil hbefore, .nil, hrest⟩
      · obtain ⟨before, hbefore, hquote, hitem⟩ := nextItem_sound hnext
        obtain ⟨tail, hquote⟩ := hquote rfl
        obtain ⟨body, hbody, ⟨span, rfl⟩, hkeyRest⟩ := keyNode_sound hquote hkey
        obtain ⟨blank, between, v, seen', status', hblank, hbetween, hcolon, hv, htakes, hread⟩ :=
          entry_sound hvalue hread
        obtain ⟨members, s, hseries, hall, hrest⟩ := ih hothers hread
        have hentry : IsEntry (name, v)
            (0x22 :: (body ++ 0x22 :: (blank ++ 0x3A :: (between ++ v)))) :=
          ⟨⟨body, blank, between, rfl, hbody, hblank, hbetween⟩, hv⟩
        have hitemRest : item.rest = 0x22 :: (body ++ 0x22 :: (blank ++ 0x3A :: (between ++ v))) ++
            (s ++ 0x7D :: after.rest) := by
          rw [hkeyRest, hcolon, hrest]
          simp only [List.append_assoc, List.cons_append]
        cases first with
        | true =>
            refine ⟨(name, v) :: members, _, .first hbefore hentry hseries, .cons htakes hall, ?_⟩
            rw [if_pos rfl] at hitem
            rw [hitem, hitemRest]
            simp only [List.append_assoc]
        | false =>
            rw [if_neg Bool.false_ne_true] at hitem
            obtain ⟨between', hbetween', hitem⟩ := hitem
            refine ⟨(name, v) :: members, _, .next hbefore hbetween' hentry hseries,
              .cons htakes hall, ?_⟩
            rw [hitem, hitemRest]
            simp only [List.append_assoc, List.cons_append]

/-- The entries up to the end of an object are read and come to a status, and `t` comes after them.
-/
def ReadsTo (fuel : Nat) (first : Bool) (input : Input) (seen : List String) (status : AgentStatus)
    (t : List UInt8) (last : AgentStatus) : Prop :=
  ∃ entries after, entryNodes fuel plan first input = (entries, .ok after) ∧ after.rest = t ∧
    ∀ path owner, (shape dialect).readEntries path owner none entries seen status = .ok last

/-- A member that is taken is read where an entry begins, and then what comes after it. -/
theorem ReadsTo.entry {first : Bool} {item : Input} {m : String × List UInt8}
    {text u : List UInt8} (hnext : nextItem? .object first input = .ok (some item))
    (hentry : IsEntry m text) (htakes : Takes seen status m seen' status') (hu : Ends u)
    (hitem : item.rest = text ++ u)
    (hothers : ∀ {next}, next.rest = u → ReadsTo (fuel + 1) false next seen' status' t last) :
    ReadsTo (fuel + 2) first input seen status t last := by
  obtain ⟨⟨body, blank, between, rfl, hbody, hblank, hbetween⟩, hv⟩ := hentry
  simp only [List.cons_append, List.append_assoc] at hitem
  obtain ⟨span, colonAt, hkey, hcolon⟩ := keyNode_complete hbody hitem
  obtain ⟨value, next, hvalue, hrest, hread⟩ :=
    entry_complete hblank hbetween hv hu htakes hcolon fuel
  obtain ⟨others, after, hnodes, hafter, hreads⟩ := hothers hrest
  refine ⟨(.scalar span (.text m.1), value) :: others, after, entryNodes_eq_ok_iff.mpr (.inr ?_),
    hafter, fun path owner => hread path owner span others (hreads path owner)⟩
  exact ⟨item, m.1, _, colonAt, value, next, others, hnext, hkey, hvalue, hnodes, rfl⟩

/-- Members that are taken are read up to the end of their object. -/
theorem entries_complete {first : Bool} {s : List UInt8} (hseries : Series IsEntry first members s)
    (hall : TakesAll seen status members last) (hfuel : s.length < fuel)
    (h : input.rest = s ++ 0x7D :: t) : ReadsTo fuel first input seen status t last := by
  induction hseries generalizing input fuel seen status with
  | nil hblank =>
      obtain ⟨fuel, rfl⟩ := Nat.exists_eq_succ_of_ne_zero (Nat.ne_zero_of_lt hfuel)
      obtain ⟨hnext, hafter⟩ := nextItem_closing (c := .object) hblank h
      refine ⟨[], _, entryNodes_eq_ok_iff.mpr (.inl ⟨hnext, rfl, rfl⟩), hafter, ?_⟩
      cases hall
      exact fun _ _ => rfl
  | @first m members before text s hbefore hentry hseries ih =>
      obtain ⟨tail, rfl⟩ := entry_begins hentry
      simp only [List.length_append, List.length_cons] at hfuel
      obtain ⟨fuel, rfl⟩ : ∃ n, fuel = n + 2 := ⟨fuel - 2, by omega⟩
      have hlt : s.length < fuel + 1 := by omega
      have hrest : input.rest = before ++ 0x22 :: (tail ++ (s ++ 0x7D :: t)) := by
        rw [h]
        simp only [List.append_assoc, List.cons_append]
      obtain ⟨hnext, hitem⟩ :=
        nextItem_begin (c := .object) hbefore rfl (by decide) (fun _ => rfl) hrest
      cases hall with
      | cons hm hall =>
          exact .entry hnext hentry hm (series_ends hseries .object) hitem (ih hall hlt)
  | @next m members before between text s hbefore hbetween hentry hseries ih =>
      obtain ⟨tail, rfl⟩ := entry_begins hentry
      simp only [List.length_append, List.length_cons] at hfuel
      obtain ⟨fuel, rfl⟩ : ∃ n, fuel = n + 2 := ⟨fuel - 2, by omega⟩
      have hlt : s.length < fuel + 1 := by omega
      have hrest : input.rest =
          before ++ 0x2C :: (between ++ 0x22 :: (tail ++ (s ++ 0x7D :: t))) := by
        rw [h]
        simp only [List.append_assoc, List.cons_append]
      obtain ⟨item, hnext, hitem⟩ :=
        nextItem_next (c := .object) hbefore hbetween rfl (by decide) (fun _ => rfl) hrest
      cases hall with
      | cons hm hall =>
          exact .entry hnext hentry hm (series_ends hseries .object) hitem (ih hall hlt)

/-! ## Lists that are read -/

/-- A listed record is finished if nothing is left of its list. -/
theorem finishList_eq_ok_iff {items surplus : List JsonNode} {rest : Option Error}
    {draft : AgentStatus} :
    (shape dialect).finishList dialect path span items surplus rest draft = .ok status ↔
      surplus = [] ∧ rest = none ∧ draft = status := by
  have hfinish : (shape dialect).finishList dialect path span items surplus rest draft =
      if surplus.isEmpty = false ∨ rest.isSome then
        .error (.misfit (.own .surplusItems .afterItem
          (((items.drop 1).head?.map (·.span)).getD span) path))
      else .ok draft := by
    simp [Shape.finishList, shape, dialect]
  rw [hfinish]
  cases surplus <;> cases rest <;> simp

/-- A listed record is read if it has at most two items, each of its own kind. -/
theorem read_list_iff {items : List JsonNode} {rest : Option Error} :
    (shape dialect).read dialect [] (.list span items rest) = .ok status ↔ rest = none ∧
      ((items = [] ∧ status = ⟨false, 0⟩) ∨
      (∃ a, items = [a] ∧ readFlag [.index 0] a = .ok status.healthy ∧ status.index = 0) ∨
      ∃ a b, items = [a, b] ∧ readFlag [.index 0] a = .ok status.healthy ∧
        readWord64 dialect [.index 1] b = .ok status.index) := by
  have hread : (shape dialect).read dialect [] (.list span items rest) =
      readListed [] rest 0 [healthyField, indexField] items ⟨false, 0⟩ >>= fun (draft, surplus) =>
        (shape dialect).finishList dialect [] span items surplus rest draft := rfl
  have hfinish : ∀ {draft : AgentStatus} {surplus : List JsonNode},
      (shape dialect).finishList dialect [] span items surplus rest draft = .ok status ↔
        surplus = [] ∧ rest = none ∧ draft = status := finishList_eq_ok_iff
  rw [hread]
  constructor
  · intro h
    obtain ⟨⟨draft, surplus⟩, hlisted, h⟩ := bind_eq_ok_iff.mp h
    obtain ⟨rfl, rfl, rfl⟩ := hfinish.mp h
    refine ⟨rfl, ?_⟩
    match items with
    | [] =>
        obtain ⟨rfl, -⟩ := Prod.mk.inj (Except.ok.inj hlisted)
        exact .inl ⟨rfl, rfl⟩
    | [a] =>
        obtain ⟨first, hfirst, hlisted⟩ := bind_eq_ok_iff.mp hlisted
        obtain ⟨b, hflag, hfirst⟩ := bind_eq_ok_iff.mp hfirst
        obtain rfl := Except.ok.inj hfirst
        obtain ⟨rfl, -⟩ := Prod.mk.inj (Except.ok.inj hlisted)
        exact .inr (.inl ⟨a, rfl, hflag, rfl⟩)
    | a :: c :: surplus =>
        obtain ⟨first, hfirst, hlisted⟩ := bind_eq_ok_iff.mp hlisted
        obtain ⟨b, hflag, hfirst⟩ := bind_eq_ok_iff.mp hfirst
        obtain rfl := Except.ok.inj hfirst
        obtain ⟨second, hsecond, hlisted⟩ := bind_eq_ok_iff.mp hlisted
        obtain ⟨w, hword, hsecond⟩ := bind_eq_ok_iff.mp hsecond
        obtain rfl := Except.ok.inj hsecond
        obtain ⟨rfl, rfl⟩ := Prod.mk.inj (Except.ok.inj hlisted)
        exact .inr (.inr ⟨a, c, rfl, hflag, hword⟩)
  · rintro ⟨rfl, ⟨rfl, rfl⟩ | ⟨a, rfl, hflag, hindex⟩ | ⟨a, c, rfl, hflag, hword⟩⟩
    · rfl
    · have hfirst : healthyField.read [.index 0] a ⟨false, 0⟩ = .ok status :=
        bind_eq_ok_iff.mpr ⟨_, hflag, congrArg Except.ok (by rw [← hindex])⟩
      exact bind_eq_ok_iff.mpr ⟨(status, []), bind_eq_ok_iff.mpr ⟨status, hfirst, rfl⟩,
        hfinish.mpr ⟨rfl, rfl, rfl⟩⟩
    · have hsecond : indexField.read [.index 1] c ⟨status.healthy, 0⟩ = .ok status :=
        bind_eq_ok_iff.mpr ⟨_, hword, rfl⟩
      have hlisted : readListed [] none 0 [healthyField, indexField] [a, c] ⟨false, 0⟩ =
          .ok (status, []) :=
        bind_eq_ok_iff.mpr ⟨_, bind_eq_ok_iff.mpr ⟨_, hflag, rfl⟩,
          bind_eq_ok_iff.mpr ⟨_, hsecond, rfl⟩⟩
      exact bind_eq_ok_iff.mpr ⟨_, hlisted, hfinish.mpr ⟨rfl, rfl, rfl⟩⟩

/-- What the items up to the end of a list stand for are the values that say something. -/
theorem list_sound {after : Input} {items : List JsonNode}
    (h : itemNodes fuel true input = (items, .ok after))
    (hread : (shape dialect).read dialect [] (.list span items none) = .ok status) :
    ∃ vs s, Series Eq true vs s ∧ Lists vs status.healthy status.index.toNat ∧
      input.rest = s ++ 0x5D :: after.rest := by
  obtain ⟨-, ⟨rfl, rfl⟩ | ⟨a, rfl, hflag, hindex⟩ | ⟨a, c, rfl, hflag, hword⟩⟩ :=
    read_list_iff.mp hread
  · obtain ⟨before, hbefore, hrest⟩ := itemNodes_nil_sound h
    exact ⟨[], before, .nil hbefore, .nothing, hrest⟩
  · obtain ⟨fuel, item, next, hnext, hvalue, hothers⟩ := itemNodes_cons_sound h
    obtain ⟨before, hbefore, -, hitem⟩ := nextItem_sound hnext
    obtain ⟨between, last, hlast, hbetween, hinner⟩ := flag_sound hvalue hflag
    obtain rfl := Option.some.inj hlast
    obtain ⟨end', hend, hrest⟩ := itemNodes_nil_sound hothers
    refine ⟨[flagBytes status.healthy], _, .first (hbefore.append hbetween) rfl (.nil hend), ?_, ?_⟩
    · rw [hindex]
      exact .flag rfl
    · rw [if_pos rfl] at hitem
      rw [hitem, hinner, hrest]
      simp only [List.append_assoc]
  · obtain ⟨fuel, item, next, hnext, hvalue, hothers⟩ := itemNodes_cons_sound h
    obtain ⟨before, hbefore, -, hitem⟩ := nextItem_sound hnext
    obtain ⟨between, last, hlast, hbetween, hinner⟩ := flag_sound hvalue hflag
    obtain rfl := Option.some.inj hlast
    obtain ⟨fuel', item', next', hnext', hvalue', hothers'⟩ := itemNodes_cons_sound hothers
    obtain ⟨before', hbefore', -, hitem'⟩ := nextItem_sound hnext'
    obtain ⟨between', last', hlast', hbetween', hinner'⟩ := word_sound hvalue' hword
    obtain rfl := Option.some.inj hlast'
    obtain ⟨end', hend, hrest⟩ := itemNodes_nil_sound hothers'
    rw [if_neg Bool.false_ne_true] at hitem'
    obtain ⟨blank, hblank, hitem'⟩ := hitem'
    refine ⟨[flagBytes status.healthy, digits status.index.toNat], _,
      .first (hbefore.append hbetween) rfl
        (.next hbefore' (hblank.append hbetween') rfl (.nil hend)),
      .both rfl ⟨status.index.toNat_lt, rfl⟩, ?_⟩
    rw [if_pos rfl] at hitem
    rw [hitem, hinner, hitem', hinner', hrest]
    simp only [List.append_assoc, List.cons_append]

/-- Values that say something are read up to the end of their list. -/
theorem list_complete {vs : List (List UInt8)} {s : List UInt8} {healthy : Bool} {index : Nat}
    (hlists : Lists vs healthy index) (hseries : Series Eq true vs s) (hfuel : 2 < fuel)
    (h : input.rest = s ++ 0x5D :: t) :
    ∃ items after, itemNodes fuel true input = (items, .ok after) ∧ after.rest = t ∧
      ∃ status : AgentStatus, status.healthy = healthy ∧ status.index.toNat = index ∧
        ∀ span, (shape dialect).read dialect [] (.list span items none) = .ok status := by
  have hnothing : IsBlank [] := by simp [IsBlank]
  obtain ⟨fuel, rfl⟩ : ∃ n, fuel = n + 3 := ⟨fuel - 3, by omega⟩
  cases hlists with
  | nothing =>
      obtain ⟨hblank⟩ := hseries
      obtain ⟨after, hnodes, hafter⟩ := itemNodes_closing (fuel + 2) true hblank h
      exact ⟨[], after, hnodes, hafter, ⟨false, 0⟩, rfl, rfl, fun _ => rfl⟩
  | flag hv =>
      obtain _ | ⟨hbefore, rfl, ⟨hblank⟩⟩ := hseries
      obtain rfl := hv
      simp only [List.append_assoc] at h
      obtain ⟨item, hnext, hitem⟩ := nextItem_value true (flagBytes_isValue healthy) hbefore h
      obtain ⟨span, next, hvalue, hrest⟩ := flag_complete [] healthy hnothing hitem (fuel + 1)
      obtain ⟨after, hnodes, hafter⟩ := itemNodes_closing (fuel + 1) false hblank hrest
      refine ⟨_, after, itemNodes_item hnext hvalue (by simp) hnodes, hafter, ⟨healthy, 0⟩, rfl,
        rfl, fun _ => ?_⟩
      exact read_list_iff.mpr ⟨rfl, .inr (.inl ⟨_, rfl, rfl, rfl⟩)⟩
  | both hv hw =>
      obtain _ | ⟨hbefore, rfl, _ | _ | ⟨hcomma, hbetween, rfl, ⟨hblank⟩⟩⟩ := hseries
      obtain rfl := hv
      obtain ⟨hfits, rfl⟩ := hw
      simp only [List.append_assoc, List.cons_append] at h
      obtain ⟨item, hnext, hitem⟩ := nextItem_value true (flagBytes_isValue healthy) hbefore h
      obtain ⟨span, next, hvalue, hrest⟩ := flag_complete [] healthy hnothing hitem (fuel + 1)
      obtain ⟨item', hnext', hitem'⟩ :=
        nextItem_value false (digits_isValue index) hbetween ⟨_, hcomma, hrest⟩
      obtain ⟨span', next', hvalue', hrest'⟩ := word_complete [] hfits hnothing
        (ends_blank hblank (ends_closing .list t)) hitem' fuel
      obtain ⟨after, hnodes, hafter⟩ := itemNodes_closing fuel false hblank hrest'
      have hword : (UInt64.ofNat index).toNat = index := UInt64.toNat_ofNat_of_lt' hfits
      refine ⟨_, after, itemNodes_item hnext hvalue (by simp)
        (itemNodes_item hnext' hvalue' (by simp) hnodes), hafter,
        ⟨healthy, UInt64.ofNat index⟩, rfl, hword, fun _ => ?_⟩
      refine read_list_iff.mpr ⟨rfl, .inr (.inr ⟨_, _, rfl, rfl, ?_⟩)⟩
      conv_lhs => rw [← hword]
      exact readWord64_toNat _ _ _

/-! ## Bodies that are read -/

/-- A table is read if it is complete and its entries come to a status. -/
theorem read_table_iff {rest : Option Error} :
    (shape dialect).read dialect [] (.table span entries rest) = .ok status ↔ rest = none ∧
      (shape dialect).readEntries [] span none entries [] ⟨false, 0⟩ = .ok status := by
  have hread : (shape dialect).read dialect [] (.table span entries rest) =
      (shape dialect).readEntries [] span rest entries [] ⟨false, 0⟩ >>=
        (shape dialect).finishTable [] span := rfl
  rw [hread]
  constructor
  · intro h
    obtain ⟨draft, hdraft, h⟩ := bind_eq_ok_iff.mp h
    obtain rfl := Except.ok.inj h
    cases rest with
    | none => exact ⟨rfl, hdraft⟩
    | some e => exact absurd hdraft readEntries_ne_ok
  · rintro ⟨rfl, h⟩
    exact bind_eq_ok_iff.mpr ⟨status, h, rfl⟩

/-- The default of a status. -/
theorem takesAll_default_iff : TakesAll [] ⟨false, 0⟩ members status ↔
    Says IsFlag "healthy" false members status.healthy ∧
      Says IsIndex "wsrep_local_index" 0 members status.index.toNat := by
  have hsaid : ∀ {α : Type} {IsWritten : List UInt8 → α → Prop} {name : String} {x a : α},
      SaysAfter IsWritten [] name x members a ↔ Says IsWritten name x members a :=
    ⟨fun h => h.said, fun h => ⟨h, nofun⟩⟩
  rw [takesAll_iff, hsaid, hsaid]
  rfl

/-- An index that is said has 64 bits. -/
theorem index_lt {index : Nat} (h : Says IsIndex name 0 members index) : index < UInt64.size := by
  unfold Says at h
  split at h
  · rw [h]
    decide
  · exact h.1
  · exact h.elim

/-- Only what is written as a status is read as one. -/
theorem parse_sound {body : List UInt8} (h : parse body = .ok status) :
    Writes body status.healthy status.index.toNat := by
  obtain ⟨hread, hlast⟩ := readRecord_eq_ok_iff.mp h
  obtain ⟨-, before, hbefore, hsplit⟩ := skipBlank_sound ⟨0, body⟩
  obtain ⟨node, rest, hdocument⟩ : ∃ node rest, document plan body = (node, rest) := ⟨_, _, rfl⟩
  have hparts := valueNode_parts hdocument
  rw [hdocument] at hread hlast
  cases node with
  | list span items broken =>
      obtain ⟨rfl, -⟩ := read_list_iff.mp hread
      obtain ⟨tail, last, htail, rfl, hnodes⟩ := hparts
      obtain ⟨vs, s, hseries, hlists, hrest⟩ := list_sound hnodes hread
      rw [advance_rest htail] at hrest
      obtain rfl : body = before ++ 0x5B :: (s ++ 0x5D :: last.rest) := by
        rw [← hrest, ← htail]
        exact hsplit
      exact .list hbefore (hlast last rfl) hseries hlists
  | table span entries broken =>
      obtain ⟨rfl, hentries⟩ := read_table_iff.mp hread
      obtain ⟨tail, last, htail, rfl, hnodes⟩ := hparts
      obtain ⟨members, s, hseries, hall, hrest⟩ := entries_sound hnodes hentries
      rw [advance_rest htail] at hrest
      obtain rfl : body = before ++ 0x7B :: (s ++ 0x7D :: last.rest) := by
        rw [← hrest, ← htail]
        exact hsplit
      obtain ⟨hhealthy, hindex⟩ := takesAll_default_iff.mp hall
      exact .object hbefore (hlast last rfl) hseries hhealthy hindex
  | scalar | skipped | broken => cases hread

/-- What is written as a status is read as one. -/
theorem parse_complete {body : List UInt8} {healthy : Bool} {index : Nat}
    (h : Writes body healthy index) : ∃ status : AgentStatus, parse body = .ok status ∧
      status.healthy = healthy ∧ status.index.toNat = index := by
  -- a status is read if the value between the blank space is read as a complete one
  have hread : ∀ {node : JsonNode} {last : Input} {status : AgentStatus} {after : List UInt8},
      document plan body = (node, some last) → last.rest = after → IsBlank after →
      (shape dialect).read dialect [] node = .ok status → parse body = .ok status := by
    intro node last status after hdocument hlast hafter hread
    refine readRecord_eq_ok_iff.mpr ⟨?_, ?_⟩
    · rw [hdocument]
      exact hread
    · rw [hdocument]
      rintro _ ⟨⟩
      exact hlast ▸ hafter
  cases h with
  | @object before after s members _ _ hbefore hafter hseries hhealthy hindex =>
      generalize hbody : before ++ 0x7B :: (s ++ 0x7D :: after) = body at hread
      have hword : (UInt64.ofNat index).toNat = index :=
        UInt64.toNat_ofNat_of_lt' (index_lt hindex)
      have hall : TakesAll [] ⟨false, 0⟩ members ⟨healthy, UInt64.ofNat index⟩ :=
        takesAll_default_iff.mpr ⟨hhealthy, hword.symm ▸ hindex⟩
      have hfuel : s.length < 2 * body.length + 1 := by
        simp only [← hbody, List.length_append, List.length_cons]
        omega
      have hinput : (⟨(Input.skipBlank ⟨0, body⟩).offset + 1, s ++ 0x7D :: after⟩ : Input).rest =
          s ++ 0x7D :: after := rfl
      obtain ⟨entries, last, hnodes, hlast, hentries⟩ :=
        entries_complete hseries hall hfuel hinput
      have hdocument : document plan body = (.table _ entries none, some last) :=
        (valueNode_blank _ plan hbefore (solid_cons rfl _) hbody.symm).trans
          (valueNode_object hnodes)
      exact ⟨⟨healthy, UInt64.ofNat index⟩,
        hread hdocument hlast hafter (read_table_iff.mpr ⟨rfl, hentries _ _⟩), rfl, hword⟩
  | @list before after s vs _ _ hbefore hafter hseries hlists =>
      generalize hbody : before ++ 0x5B :: (s ++ 0x5D :: after) = body at hread
      have hfuel : 2 < 2 * body.length + 1 := by
        simp only [← hbody, List.length_append, List.length_cons]
        omega
      have hinput : (⟨(Input.skipBlank ⟨0, body⟩).offset + 1, s ++ 0x5D :: after⟩ : Input).rest =
          s ++ 0x5D :: after := rfl
      obtain ⟨items, last, hnodes, hlast, status, hhealthy, hindex, hlist⟩ :=
        list_complete hlists hseries hfuel hinput
      have hdocument : document plan body = (.list _ items none, some last) :=
        (valueNode_blank _ plan hbefore (solid_cons rfl _) hbody.symm).trans
          (valueNode_list hnodes)
      exact ⟨status, hread hdocument hlast hafter (hlist _), hhealthy, hindex⟩

/-- A body is read as a status exactly if it is written as one. -/
theorem writes_iff {body : List UInt8} {healthy : Bool} {index : Nat} :
    Writes body healthy index ↔ ∃ status : AgentStatus, parse body = .ok status ∧
      status.healthy = healthy ∧ status.index.toNat = index := by
  refine ⟨parse_complete, ?_⟩
  rintro ⟨status, h, rfl, rfl⟩
  exact parse_sound h

end AgentStatus

/-! ## Answers -/

/-- What an answer comes to, for every answer: it is believed exactly if its status is 200 and its
body is written as a status, and then it comes to what the body says. Every other answer is
rejected. -/
theorem answer_believed_iff (url : String) (reply : AgentReply) :
    (∀ healthy index, decodeReply url reply = .answered healthy index ↔
      reply.status = 200 ∧ AgentStatus.Writes reply.body healthy index) ∧
    ((∃ reason, decodeReply url reply = .rejected url reason) ↔
      ¬ ∃ healthy index, reply.status = 200 ∧ AgentStatus.Writes reply.body healthy index) := by
  have hanswered : ∀ healthy index, decodeReply url reply = .answered healthy index ↔
      reply.status = 200 ∧ AgentStatus.Writes reply.body healthy index := by
    intro healthy index
    rw [AgentStatus.writes_iff]
    unfold decodeReply
    by_cases hstatus : reply.status = 200
    · rw [if_pos hstatus]
      cases hparse : AgentStatus.parse reply.body with
      | ok status => simp [hstatus]
      | error detail => simp
    · rw [if_neg hstatus]
      simp [hstatus]
  have hcases : (∃ healthy index, decodeReply url reply = .answered healthy index) ∨
      ∃ reason, decodeReply url reply = .rejected url reason := by
    unfold decodeReply
    split
    · split
      · exact .inl ⟨_, _, rfl⟩
      · exact .inr ⟨_, rfl⟩
    · exact .inr ⟨_, rfl⟩
  refine ⟨hanswered, ?_⟩
  simp only [← hanswered]
  constructor
  · rintro ⟨reason, hrejected⟩ ⟨healthy, index, h⟩
    cases hrejected.symm.trans h
  · exact fun hnone => hcases.resolve_left hnone

end GaleraProxy
