import GaleraProxy.Http.Authority
import GaleraProxy.Proofs.Config.Checking
import GaleraProxy.Proofs.Host.SocketAddress
import Mathlib.Data.List.TakeWhile

/-!
# Authorities of a host and a port

A host, a colon and a port are an authority that names just this host and this port if the host has
no colon, no user and no percent sign outside of brackets, or if it is an IPv6 address in brackets.
-/

namespace GaleraProxy.Http.Uri

open Address (portDigits)

variable {c : Char} {text host : List Char} {port : UInt16}

/-! ## The parts of an authority -/

theorem all_ne_of_not_mem (h : c ∉ text) : ∀ d ∈ text, decide (d ≠ c) = true := by
  intro d hd
  exact decide_eq_true fun heq => h (heq ▸ hd)

theorem not_mem_takeWhile_ne (c : Char) (text : List Char) : c ∉ text.takeWhile (· ≠ c) := by
  intro hmem
  have hne := List.mem_takeWhile_imp hmem
  exact absurd rfl (of_decide_eq_true hne)

theorem not_mem_afterLast (c : Char) (text : List Char) : c ∉ afterLast c text :=
  fun hmem => not_mem_takeWhile_ne c text.reverse (List.mem_reverse.mp hmem)

theorem afterLast_of_not_mem (h : c ∉ text) : afterLast c text = text := by
  have hreverse : c ∉ text.reverse := fun hmem => h (List.mem_reverse.mp hmem)
  rw [afterLast, List.takeWhile_eq_self_iff.mpr (all_ne_of_not_mem hreverse), List.reverse_reverse]

theorem afterLast_append {back : List Char} (h : c ∉ back) (front : List Char) :
    afterLast c (front ++ c :: back) = back := by
  have hreverse : c ∉ back.reverse := fun hmem => h (List.mem_reverse.mp hmem)
  rw [afterLast, List.reverse_append, List.reverse_cons, List.append_assoc,
    List.takeWhile_append_of_pos (all_ne_of_not_mem hreverse)]
  simp

theorem afterLast_sublist (c : Char) (text : List Char) : (afterLast c text).Sublist text := by
  have hsub := List.takeWhile_sublist (· ≠ c) (l := text.reverse)
  rwa [List.sublist_reverse_iff] at hsub

/-- A host is a part of what follows the user. -/
theorem hostOf_sublist_afterLast (authority : List Char) :
    (hostOf authority).Sublist (afterLast '@' authority) := by
  rw [hostOf]
  split
  · rename_i rest heq
    rw [heq, List.cons_sublist_cons]
    have hsub := (List.take_sublist 1 (rest.dropWhile (· ≠ ']'))).append_left
      (rest.takeWhile (· ≠ ']'))
    rwa [List.takeWhile_append_dropWhile] at hsub
  · exact List.takeWhile_sublist _

theorem hostOf_length_le (authority : List Char) : (hostOf authority).length ≤ authority.length :=
  ((hostOf_sublist_afterLast authority).trans (afterLast_sublist '@' authority)).length_le

/-- A host has no user. -/
theorem user_not_mem_hostOf (authority : List Char) : '@' ∉ hostOf authority :=
  fun hmem => not_mem_afterLast '@' authority ((hostOf_sublist_afterLast authority).mem hmem)

/-- A host that begins without a bracket has no colon. -/
theorem colon_not_mem_hostOf {authority : List Char} (h : (hostOf authority).head? ≠ some '[') :
    ':' ∉ hostOf authority := by
  rw [hostOf] at h ⊢
  split at h
  · exact absurd rfl h
  · exact not_mem_takeWhile_ne ':' _

/-- A port is read back from its decimal form. -/
theorem portOf_append (host : List Char) (port : UInt16) :
    portOf? (host ++ ':' :: portDigits port) = some port := by
  have hplus : '+' ∉ portDigits port := Address.not_mem_portDigits rfl port
  have hcolon : ':' ∉ portDigits port := Address.not_mem_portDigits rfl port
  rw [portOf?, if_pos (by simp), afterLast_append hcolon, portOfText?]
  · simp [Address.readNumber_portDigits]
  · exact fun rest heq => hplus (heq ▸ List.mem_cons_self)

theorem not_mem_append_port (h : c ∉ host) (hcolon : c ≠ ':')
    (hdigit : Address.digit? 10 c = none) (port : UInt16) :
    c ∉ host ++ ':' :: portDigits port :=
  List.not_mem_append h (Address.not_mem_port hcolon hdigit port)

theorem hostOf_name (huser : '@' ∉ host) (hcolon : ':' ∉ host) (hhead : host.head? ≠ some '[')
    (port : UInt16) : hostOf (host ++ ':' :: portDigits port) = host := by
  have hnone := not_mem_append_port huser (by decide) rfl port
  rw [hostOf, afterLast_of_not_mem hnone]
  split
  · rename_i rest heq
    cases host with
    | nil => cases heq
    | cons d others => exact absurd (congrArg some (List.cons.inj heq).1) hhead
  · rw [List.takeWhile_append_of_pos (all_ne_of_not_mem hcolon)]
    simp

theorem hostOf_bracketed {inside : List Char} (huser : '@' ∉ inside) (hclose : ']' ∉ inside)
    (port : UInt16) :
    hostOf ('[' :: (inside ++ [']']) ++ ':' :: portDigits port) = '[' :: (inside ++ [']']) := by
  have hhost : '@' ∉ '[' :: (inside ++ [']']) := by simp [huser]
  have hnone := not_mem_append_port hhost (by decide) rfl port
  have hall := all_ne_of_not_mem hclose
  rw [hostOf, afterLast_of_not_mem hnone, List.cons_append, List.append_assoc]
  simp only [List.takeWhile_append_of_pos hall, List.dropWhile_append_of_pos hall]
  simp

/-! ## Looking at an authority -/

/-- The codes of digits and letters. -/
theorem isAlphanum_iff :
    c.isAlphanum = true ↔ (0x30 ≤ c.toNat ∧ c.toNat ≤ 0x39) ∨ (0x41 ≤ c.toNat ∧ c.toNat ≤ 0x5A) ∨
      (0x61 ≤ c.toNat ∧ c.toNat ≤ 0x7A) := by
  have hupper : c.isUpper = true ↔ 0x41 ≤ c.toNat ∧ c.toNat ≤ 0x5A := by
    show decide (c.val ≥ 'A'.val ∧ c.val ≤ 'Z'.val) = true ↔ _
    rw [decide_eq_true_eq]
    exact Iff.rfl
  have hlower : c.isLower = true ↔ 0x61 ≤ c.toNat ∧ c.toNat ≤ 0x7A := by
    show (decide ('a'.val ≤ c.val) && decide (c.val ≤ 'z'.val)) = true ↔ _
    rw [Bool.and_eq_true, decide_eq_true_eq, decide_eq_true_eq]
    exact Iff.rfl
  have hdigit : c.isDigit = true ↔ 0x30 ≤ c.toNat ∧ c.toNat ≤ 0x39 := by
    show (decide ('0'.val ≤ c.val) && decide (c.val ≤ '9'.val)) = true ↔ _
    rw [Bool.and_eq_true, decide_eq_true_eq, decide_eq_true_eq]
    exact Iff.rfl
  show ((c.isUpper || c.isLower) || c.isDigit) = true ↔ _
  rw [Bool.or_eq_true, Bool.or_eq_true, hupper, hlower, hdigit, or_comm]

namespace AuthorityScan

variable {s s' : AuthorityScan}

/-- A character that an authority may have anywhere. -/
def IsPlain (c : Char) : Prop := isAuthorityChar c = true ∧ c ∉ [':', '[', ']', '@']

theorem isAuthorityChar_special : ∀ c ∈ [':', '[', ']', '@'], isAuthorityChar c = true :=
  List.all_eq_true.mp (by decide)

/-- A character is passed. -/
inductive Passes (s : AuthorityScan) : Char → AuthorityScan → Prop where
  | percent : Passes s '%' { s with percent := true, endsWithUser := false }
  | colon (hcolons : s.colons < 8) :
      Passes s ':' { s with colons := s.colons + 1, endsWithUser := false }
  | opening (hpercent : s.percent = false) (hopened : s.opened = false) :
      Passes s '[' { s with opened := true, endsWithUser := false }
  | closing (hopened : s.opened = true) (hclosed : s.closed = false) :
      Passes s ']' { s with closed := true, colons := 0, percent := false, endsWithUser := false }
  | user : Passes s '@' { s with colons := 0, percent := false, endsWithUser := true }
  | plain {d : Char} (hplain : IsPlain d) : Passes s d { s with endsWithUser := false }

/-- A plain character changes nothing that counts. -/
theorem next_plain (h : IsPlain c) (s : AuthorityScan) :
    s.next c = .ok { s with endsWithUser := false } := by
  obtain ⟨hchar, hspecial⟩ := h
  simp only [List.mem_cons, List.not_mem_nil, or_false, not_or] at hspecial
  obtain ⟨hcolon, hopen, hclose, huser⟩ := hspecial
  have hpercent : c ≠ '%' := by
    rintro rfl
    cases hchar
  simp [next, hpercent, hchar]

theorem Passes.next_eq (h : Passes s c s') : s.next c = .ok s' := by
  cases h with
  | percent => rfl
  | colon hcolons => simp [next, isAuthorityChar_special, hcolons]
  | opening hpercent hopened => simp [next, isAuthorityChar_special, hpercent, hopened]
  | closing hopened hclosed => simp [next, isAuthorityChar_special, hopened, hclosed]
  | user => rfl
  | plain hplain => exact next_plain hplain s

/-- `Passes` lists all that a scan can do with a character. -/
theorem passes_of_next (h : s.next c = .ok s') : Passes s c s' := by
  -- it is enough that some next state is reached as `Passes` says
  suffices hpasses : ∃ s'', Passes s c s'' by
    obtain ⟨s'', hpasses⟩ := hpasses
    rw [hpasses.next_eq] at h
    exact Except.ok.inj h ▸ hpasses
  by_cases hpercent : c = '%'
  · subst hpercent
    exact ⟨_, .percent⟩
  by_cases hplain : IsPlain c
  · exact ⟨_, .plain hplain⟩
  have hchar : isAuthorityChar c = true := by
    by_contra hchar
    simp [next, hpercent, Bool.not_eq_true _ ▸ hchar] at h
  have hspecial : c ∈ [':', '[', ']', '@'] := by
    by_contra hspecial
    exact hplain ⟨hchar, hspecial⟩
  simp only [List.mem_cons, List.not_mem_nil, or_false] at hspecial
  rcases hspecial with rfl | rfl | rfl | rfl
  · have hcolons : s.colons < 8 := by
      by_contra hcolons
      simp [next, isAuthorityChar_special, Nat.not_lt.mp hcolons] at h
    exact ⟨_, .colon hcolons⟩
  · have hfits : ¬ (s.percent = true ∨ s.opened = true) := by
      intro hfits
      simp [next, isAuthorityChar_special, hfits] at h
    rw [not_or, Bool.not_eq_true, Bool.not_eq_true] at hfits
    exact ⟨_, .opening hfits.1 hfits.2⟩
  · have hfits : ¬ (s.opened = false ∨ s.closed = true) := by
      intro hfits
      simp [next, isAuthorityChar_special, hfits] at h
    rw [not_or, Bool.not_eq_false, Bool.not_eq_true] at hfits
    exact ⟨_, .closing hfits.1 hfits.2⟩
  · exact ⟨_, .user⟩

/-- All of a text is passed. -/
inductive Runs : AuthorityScan → List Char → AuthorityScan → Prop where
  | nil (s : AuthorityScan) : Runs s [] s
  | cons {s between after : AuthorityScan} {d : Char} {others : List Char}
      (hfirst : Passes s d between) (hothers : Runs between others after) :
      Runs s (d :: others) after

theorem scan_eq_ok_iff : text.foldlM next s = .ok s' ↔ Runs s text s' := by
  induction text generalizing s with
  | nil =>
      constructor
      · intro h
        exact Except.ok.inj h ▸ .nil s
      · rintro ⟨⟩
        rfl
  | cons d others ih =>
      rw [List.foldlM_cons, bind_eq_ok_iff]
      constructor
      · rintro ⟨between, hfirst, hothers⟩
        exact .cons (passes_of_next hfirst) (ih.mp hothers)
      · rintro (_ | ⟨hfirst, hothers⟩)
        exact ⟨_, hfirst.next_eq, ih.mpr hothers⟩

theorem Runs.append {between after : AuthorityScan} {back : List Char} (h : Runs s text between)
    (hback : Runs between back after) : Runs s (text ++ back) after := by
  induction h with
  | nil s => exact hback
  | cons hfirst _ ih => exact .cons hfirst (ih hback)

/-- Every character that is passed may stand in an authority, or is a percent sign. -/
theorem Runs.chars (h : Runs s text s') : ∀ c ∈ text, c = '%' ∨ isAuthorityChar c = true := by
  induction h with
  | nil s => simp
  | cons hfirst _ ih =>
      refine List.forall_mem_cons.mpr ⟨?_, ih⟩
      cases hfirst with
      | percent => exact .inl rfl
      | colon => exact .inr (isAuthorityChar_special _ (by simp))
      | opening => exact .inr (isAuthorityChar_special _ (by simp))
      | closing => exact .inr (isAuthorityChar_special _ (by simp))
      | user => exact .inr (isAuthorityChar_special _ (by simp))
      | plain hplain => exact .inr hplain.1

/-- Without brackets and users, a percent sign is not forgotten. -/
theorem Runs.percent (h : Runs s text s') (hopen : '[' ∉ text) (huser : '@' ∉ text)
    (hopened : s.opened = false) : s.percent = true ∨ '%' ∈ text → s'.percent = true := by
  induction h with
  | nil s => simp
  | @cons s between after d others hfirst _ ih =>
      rw [List.mem_cons, not_or] at hopen huser
      have ih := ih hopen.2 huser.2
      intro hpercent
      cases hfirst with
      | percent => exact ih hopened (.inl rfl)
      | colon => exact ih hopened (hpercent.imp_right fun hmem => by simpa using hmem)
      | opening => exact absurd rfl hopen.1
      | closing hin =>
          -- only a closing bracket makes a scan forget, and there is none without an opening one
          rw [hopened] at hin
          cases hin
      | user => exact absurd rfl huser.1
      | plain hplain =>
          refine ih hopened (hpercent.imp_right fun hmem => ?_)
          rcases List.mem_cons.mp hmem with rfl | hothers
          · cases hplain.1
          · exact hothers

theorem passes_plain (h : IsPlain c) (hs : s.endsWithUser = false) : Passes s c s := by
  have hpasses : Passes s c { s with endsWithUser := false } := .plain h
  rwa [← hs] at hpasses

theorem passes_colon (hcolons : s.colons < 8) (hs : s.endsWithUser = false) :
    Passes s ':' { s with colons := s.colons + 1 } := by
  have hpasses : Passes s ':' { s with colons := s.colons + 1, endsWithUser := false } :=
    .colon hcolons
  rwa [← hs] at hpasses

/-- Plain characters and colons are passed as long as there are not too many colons. -/
theorem runs_colons (h : ∀ c ∈ text, c = ':' ∨ IsPlain c) (hs : s.endsWithUser = false)
    (hcolons : s.colons + text.count ':' ≤ 8) :
    Runs s text { s with colons := s.colons + text.count ':' } := by
  -- for every number of colons before the text
  induction text generalizing s with
  | nil => exact .nil s
  | cons d others ih =>
      obtain ⟨hfirst, hothers⟩ := List.forall_mem_cons.mp h
      rcases hfirst with rfl | hplain
      · rw [List.count_cons_self] at hcolons ⊢
        have hrest := ih (s := { s with colons := s.colons + 1 }) hothers hs (by
          show s.colons + 1 + _ ≤ 8
          omega)
        rw [Nat.add_right_comm, Nat.add_assoc] at hrest
        exact .cons (passes_colon (by omega) hs) hrest
      · have hne : d ≠ ':' := fun heq => hplain.2 (heq ▸ by simp)
        rw [List.count_cons_of_ne hne] at hcolons ⊢
        exact .cons (passes_plain hplain hs) (ih hothers hs hcolons)

theorem runs_plain (h : ∀ c ∈ text, IsPlain c) (hs : s.endsWithUser = false)
    (hcolons : s.colons ≤ 8) : Runs s text s := by
  have hnone : text.count ':' = 0 := List.count_eq_zero.mpr fun hmem => (h ':' hmem).2 (by simp)
  have hruns := runs_colons (fun c hc => .inr (h c hc)) hs (by rwa [hnone])
  rwa [hnone] at hruns

theorem plain_of_digit {radix : Nat} (h : (Address.digit? radix c).isSome = true) : IsPlain c := by
  constructor
  · by_contra hchar
    rw [isAuthorityChar, Bool.or_eq_true, not_or, isAlphanum_iff] at hchar
    obtain ⟨hrange, -⟩ := hchar
    have hnone : Address.digit? radix c = none := by
      have hnoDigit : ¬ ('0' ≤ c ∧ c ≤ '9') := fun hc => hrange (.inl hc)
      have hnoLower : ¬ ('a' ≤ c ∧ c ≤ 'f') := fun hc =>
        hrange (.inr (.inr ⟨hc.1, Nat.le_trans hc.2 (by decide)⟩))
      have hnoUpper : ¬ ('A' ≤ c ∧ c ≤ 'F') := fun hc =>
        hrange (.inr (.inl ⟨hc.1, Nat.le_trans hc.2 (by decide)⟩))
      simp [Address.digit?, hnoDigit, hnoLower, hnoUpper]
    rw [hnone] at h
    cases h
  · intro hspecial
    simp only [List.mem_cons, List.not_mem_nil, or_false] at hspecial
    rcases hspecial with rfl | rfl | rfl | rfl
    · cases h
    · cases h
    · cases h
    · cases h

/-- A colon and a port are passed after any host. -/
theorem runs_port (hs : s.endsWithUser = false) (hcolons : s.colons < 8) (port : UInt16) :
    Runs s (':' :: portDigits port) { s with colons := s.colons + 1 } := by
  have hplain : ∀ c ∈ portDigits port, IsPlain c := fun c hc =>
    plain_of_digit (Address.isSome_digit_of_mem_portDigits hc)
  exact .cons (passes_colon hcolons hs) (runs_plain hplain hs hcolons)

/-- Where a scan begins. -/
def start : AuthorityScan := ⟨0, false, false, false, false⟩

/-- Where a scan may end. -/
structure Accepted (s : AuthorityScan) : Prop where
  brackets : s.opened = s.closed
  colons : s.colons ≤ 1
  user : s.endsWithUser = false
  percent : s.percent = false

theorem accepted_iff : s.Accepted ↔
    ¬ (s.opened != s.closed || 1 < s.colons || s.endsWithUser || s.percent) = true := by
  simp only [Bool.or_eq_true, bne_iff_ne, decide_eq_true_eq, not_or, Classical.not_not, Nat.not_lt,
    Bool.not_eq_true]
  exact ⟨fun h => ⟨⟨⟨h.brackets, h.colons⟩, h.user⟩, h.percent⟩,
    fun ⟨⟨⟨hbrackets, hcolons⟩, huser⟩, hpercent⟩ => ⟨hbrackets, hcolons, huser, hpercent⟩⟩

theorem runs_name (h : ∀ c ∈ host, IsPlain c) (port : UInt16) :
    ∃ s, Runs start (host ++ ':' :: portDigits port) s ∧ s.Accepted := by
  have hhost : Runs start host start := runs_plain h rfl (Nat.zero_le 8)
  exact ⟨_, hhost.append (runs_port rfl (by decide) port), rfl, Nat.le_refl 1, rfl, rfl⟩

theorem runs_bracketed {inside : List Char} (h : ∀ c ∈ inside, c = ':' ∨ IsPlain c)
    (hcolons : inside.count ':' ≤ 8) (port : UInt16) :
    ∃ s, Runs start ('[' :: (inside ++ [']']) ++ ':' :: portDigits port) s ∧ s.Accepted := by
  let opened : AuthorityScan := ⟨0, true, false, false, false⟩
  let inner : AuthorityScan := ⟨0 + inside.count ':', true, false, false, false⟩
  let closed : AuthorityScan := ⟨0, true, true, false, false⟩
  have hopen : Passes start '[' opened := .opening rfl rfl
  have hinside : Runs opened inside inner := runs_colons h rfl (by rwa [Nat.zero_add])
  have hclose : Passes inner ']' closed := .closing rfl rfl
  have hhost := Runs.cons hopen (hinside.append (.cons hclose (.nil closed)))
  exact ⟨_, hhost.append (runs_port rfl (by decide) port), rfl, Nat.le_refl 1, rfl, rfl⟩

end AuthorityScan

open AuthorityScan in
/-- An authority is all that comes before a character that ends it, if a scan of it may end there.
-/
theorem splitAuthority_eq_ok_iff {authority rest : List Char} :
    splitAuthority text = .ok (authority, rest) ↔
      authority = (text.takeWhile fun c => !endsAuthority c) ∧
      rest = (text.dropWhile fun c => !endsAuthority c) ∧
      ∃ s, Runs start authority s ∧ s.Accepted := by
  rw [splitAuthority]
  constructor
  · intro h
    obtain ⟨s, hscan, h⟩ := bind_eq_ok_iff.mp h
    split at h
    · cases h
    · rename_i haccepted
      obtain ⟨rfl, rfl⟩ := Prod.mk.inj (Except.ok.inj h)
      exact ⟨rfl, rfl, s, scan_eq_ok_iff.mp hscan, accepted_iff.mpr haccepted⟩
  · rintro ⟨rfl, rfl, s, hscan, haccepted⟩
    refine bind_eq_ok_iff.mpr ⟨s, scan_eq_ok_iff.mpr hscan, ?_⟩
    rw [if_neg (accepted_iff.mp haccepted)]
    rfl

end GaleraProxy.Http.Uri
