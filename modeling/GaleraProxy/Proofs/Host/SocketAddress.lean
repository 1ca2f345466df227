import GaleraProxy.Proofs.Host.Address

/-!
# Which hosts make a socket address with a port

A host, a colon and a port in its decimal form are a socket address exactly if the host is an IPv4
address, or an IPv6 address in brackets that may name a scope.
-/

namespace GaleraProxy

namespace Address

variable {c : Char} {text rest : List Char}

/-! ## Written numbers -/

theorem digit_digitChar : ∀ d < 10, digit? 10 (Nat.digitChar d) = some d := by decide +kernel

theorem digits_snoc {radix value length value' length' d : Nat}
    (htext : digits radix value length text = (value', length', []))
    (hc : digit? radix c = some d) :
    digits radix value length (text ++ [c]) = (value' * radix + d, length' + 1, []) := by
  induction text generalizing value length with
  | nil =>
      obtain ⟨rfl, hlength⟩ := Prod.mk.inj htext
      obtain ⟨rfl, -⟩ := Prod.mk.inj hlength
      simp [digits, hc]
  | cons e others ih =>
      rw [digits] at htext
      rw [List.cons_append, digits]
      cases he : digit? radix e with
      | none =>
          rw [he] at htext
          cases (Prod.mk.inj (Prod.mk.inj htext).2).2
      | some n =>
          rw [he] at htext
          exact ih htext

/-- The decimal form of a number is read as that number. -/
theorem digits_toDigits (n : Nat) :
    ∃ length, 0 < length ∧ digits 10 0 0 (Nat.toDigits 10 n) = (n, length, []) := by
  induction n using Nat.strongRecOn with
  | ind n ih =>
      by_cases hlt : n < 10
      · refine ⟨1, Nat.one_pos, ?_⟩
        rw [Nat.toDigits_of_lt_base hlt]
        simp [digits, digit_digitChar n hlt]
      · obtain ⟨length, -, hdigits⟩ := ih (n / 10) (by omega)
        have hlast := digit_digitChar (n % 10) (Nat.mod_lt n (by omega))
        refine ⟨length + 1, Nat.succ_pos length, ?_⟩
        rw [Nat.toDigits_of_base_le (by omega) (by omega), digits_snoc hdigits hlast,
          Nat.div_add_mod']

/-- The decimal form of a port. -/
def portDigits (port : UInt16) : List Char := Nat.toDigits 10 port.toNat

theorem toList_toString_port (port : UInt16) : (toString port.toNat).toList = portDigits port :=
  Nat.toList_repr

theorem isSome_digit_of_mem_portDigits {port : UInt16} (h : c ∈ portDigits port) :
    (digit? 10 c).isSome = true := by
  obtain ⟨length, -, hdigits⟩ := digits_toDigits port.toNat
  obtain ⟨taken, htext, htaken⟩ := digits_take 10 0 0 (portDigits port)
  rw [portDigits, hdigits, List.append_nil] at htext
  exact htaken c (htext ▸ h)

theorem not_mem_portDigits (h : digit? 10 c = none) (port : UInt16) : c ∉ portDigits port := by
  intro hmem
  have hdigit := isSome_digit_of_mem_portDigits hmem
  rw [h] at hdigit
  cases hdigit

/-- A port with its colon has only this colon and digits. -/
theorem not_mem_port (hcolon : c ≠ ':') (h : digit? 10 c = none) (port : UInt16) :
    c ∉ ':' :: portDigits port :=
  List.not_mem_cons_of_ne_of_not_mem hcolon (not_mem_portDigits h port)

/-! ## Ports -/

theorem readNumber_portDigits (port : UInt16) :
    readNumber 10 none true 65536 (portDigits port) = some (port.toNat, []) := by
  obtain ⟨length, hlength, hdigits⟩ := digits_toDigits port.toNat
  have hbound : ¬ 65536 ≤ port.toNat := Nat.not_le.mpr port.toNat_lt
  rw [readNumber_eq, portDigits, hdigits]
  simp only [Option.any_none, Bool.false_eq_true, hbound, or_false, Nat.ne_of_gt hlength, if_false,
    not_true_eq_false, false_and]

theorem readPort_digits (port : UInt16) : readPort (':' :: portDigits port) = some (port, []) := by
  simp only [readPort, readChar, if_true, Option.bind_eq_bind, Option.bind_some,
    readNumber_portDigits, Option.pure_def, UInt16.ofNat_toNat]

/-- A port is read up to the end only if nothing stands before its colon. -/
theorem readPort_append_iff {port p : UInt16} :
    readPort (text ++ ':' :: portDigits port) = some (p, []) ↔ text = [] ∧ p = port := by
  constructor
  · intro h
    cases text with
    | nil =>
        rw [List.nil_append, readPort_digits] at h
        exact ⟨rfl, (Prod.mk.inj (Option.some.inj h)).1.symm⟩
    | cons d others =>
        -- a second colon would be left over
        have hcolon : digit? 10 ':' = none := rfl
        simp only [readPort, Option.bind_eq_bind, Option.bind_eq_some_iff] at h
        obtain ⟨between, hchar, ⟨n, left⟩, hnumber, heq⟩ := h
        rw [List.cons_append] at hchar
        obtain ⟨-, rfl⟩ := List.cons.inj (readChar_eq_some_iff.mp hchar)
        rw [readNumber_stops hcolon none true 65536] at hnumber
        obtain ⟨own, -, hleave⟩ := Option.map_eq_some_iff.mp hnumber
        obtain ⟨-, rfl⟩ := Prod.mk.inj hleave
        have hnil : own.2 ++ ':' :: portDigits port = [] := (Prod.mk.inj (Option.some.inj heq)).2
        simp at hnil
  · rintro ⟨rfl, rfl⟩
    exact readPort_digits _

/-! ## Addresses with a port -/

theorem readSocketV4_eq_some_iff {port : UInt16} {a : SocketAddress} :
    readSocketV4 (text ++ ':' :: portDigits port) = some (a, []) ↔
      ∃ address, readIpv4 text = some (address, []) ∧ a = .v4 address port := by
  have hstops : StopsAt ':' readIpv4 := readIpv4_stops rfl (by decide)
  simp only [readSocketV4, Option.bind_eq_bind, Option.bind_eq_some_iff, hstops text]
  constructor
  · rintro ⟨⟨address, between⟩, haddress, ⟨p, left⟩, hport, heq⟩
    obtain ⟨⟨own, rest⟩, hread, hleave⟩ := Option.map_eq_some_iff.mp haddress
    obtain ⟨rfl, rfl⟩ := Prod.mk.inj hleave
    obtain ⟨rfl, rfl⟩ := Prod.mk.inj (Option.some.inj heq)
    obtain ⟨rfl, rfl⟩ := readPort_append_iff.mp hport
    exact ⟨own, hread, rfl⟩
  · rintro ⟨address, hread, rfl⟩
    refine ⟨(address, ':' :: portDigits port), ?_, (port, []), readPort_digits port, rfl⟩
    rw [hread]
    rfl

/-- A scope ends at the latest before a character that is neither a digit nor a percent sign. -/
theorem readScope_stops (hdigit : digit? 10 c = none) (hpercent : '%' ≠ c) :
    StopsAt c readScope := by
  intro text tail
  rw [readScope, readScope, readChar_append hpercent]
  cases readChar '%' text with
  | none => rfl
  | some after =>
      have hnumber := readNumber_stops hdigit none true UInt32.size after tail
      simp only [Option.map_some, Option.bind_eq_bind, hnumber]
      cases readNumber 10 none true UInt32.size after with
      | none => rfl
      | some p => rfl

/-- A character of a scope. -/
def IsZoneChar (c : Char) : Prop := (digit? 10 c).isSome = true ∨ c = '%'

theorem readScope_takes : Takes IsZoneChar readScope := by
  intro text scope rest h
  rw [readScope] at h
  split at h
  · obtain ⟨-, rfl⟩ := Prod.mk.inj (Option.some.inj h)
    exact ⟨[], rfl, by simp⟩
  · rename_i after hchar
    obtain rfl := readChar_eq_some_iff.mp hchar
    obtain ⟨⟨n, own⟩, hnumber, heq⟩ := Option.bind_eq_some_iff.mp h
    obtain ⟨-, rfl⟩ := Prod.mk.inj (Option.some.inj heq)
    obtain ⟨taken, rfl, htaken⟩ := readNumber_takes 10 none true UInt32.size _ _ _ hnumber
    refine ⟨'%' :: taken, rfl, fun c hc => ?_⟩
    rcases List.mem_cons.mp hc with rfl | hmem
    · exact .inr rfl
    · exact .inl (htaken c hmem)

theorem ends_bracket : Ends ']' := ⟨rfl, by decide, by decide⟩

theorem ends_percent : Ends '%' := ⟨rfl, by decide, by decide⟩

/-- A reader takes all of a text exactly if it leaves what stops it. -/
theorem StopsAt.eq_some_iff {α : Type} {read : List Char → Option (α × List Char)} {a : α}
    (h : StopsAt c read) (tail : List Char) :
    read (text ++ c :: tail) = some (a, c :: tail) ↔ read text = some (a, []) := by
  rw [h text tail, Option.map_eq_some_iff]
  constructor
  · rintro ⟨⟨b, left⟩, hread, hleave⟩
    obtain ⟨rfl, hleft⟩ := Prod.mk.inj hleave
    obtain rfl := List.append_left_eq_self.mp hleft
    exact hread
  · exact fun hread => ⟨(a, []), hread, rfl⟩

/-- A scope is empty or begins with a percent sign. -/
theorem scope_begins {scope : UInt32} {zone : List Char} (h : readScope zone = some (scope, [])) :
    zone = [] ∨ ∃ digits, zone = '%' :: digits := by
  rw [readScope] at h
  split at h
  · exact .inl (Prod.mk.inj (Option.some.inj h)).2
  · rename_i digits hchar
    exact .inr ⟨digits, readChar_eq_some_iff.mp hchar⟩

/-- Before a scope and a closing bracket the whole address is read. -/
theorem readIpv6_before_scope {front zone : List Char} {address : Ipv6} {scope : UInt32}
    (hzone : readScope zone = some (scope, [])) (tail : List Char) :
    readIpv6 (front ++ (zone ++ ']' :: tail)) = some (address, zone ++ ']' :: tail) ↔
      readIpv6 front = some (address, []) := by
  rcases scope_begins hzone with rfl | ⟨digits, rfl⟩
  · exact ends_bracket.ipv6_stops.eq_some_iff tail
  · exact ends_percent.ipv6_stops.eq_some_iff (digits ++ ']' :: tail)

/-- What stands before a port begins and ends with brackets if a closing bracket is found. -/
theorem exists_bracketed {port : UInt16} {inner after : List Char}
    (h : text ++ ':' :: portDigits port = '[' :: (inner ++ ']' :: after)) :
    ∃ between, text = '[' :: (inner ++ ']' :: between) ∧
      after = between ++ ':' :: portDigits port := by
  have hport : ']' ∉ ':' :: portDigits port := not_mem_port (by decide) rfl port
  have hsplit : text ++ ':' :: portDigits port = ('[' :: inner) ++ ']' :: after := h
  rcases List.append_eq_append_iff.mp hsplit with ⟨more, hinner, hrest⟩ | ⟨more, htext, hrest⟩
  · exact absurd (hrest ▸ List.mem_append_right more List.mem_cons_self) hport
  · cases more with
    | nil => cases (List.cons.inj hrest).1
    | cons d between =>
        obtain ⟨rfl, rfl⟩ := List.cons.inj hrest
        exact ⟨between, htext, rfl⟩

theorem readSocketV6_eq_some_iff {port : UInt16} {a : SocketAddress} :
    readSocketV6 (text ++ ':' :: portDigits port) = some (a, []) ↔
      ∃ front zone address scope, text = '[' :: (front ++ zone ++ [']']) ∧
        readIpv6 front = some (address, []) ∧ readScope zone = some (scope, []) ∧
        a = .v6 address scope port := by
  have hscope : StopsAt ']' readScope := readScope_stops rfl (by decide)
  simp only [readSocketV6, Option.bind_eq_bind, Option.bind_eq_some_iff]
  constructor
  · rintro ⟨inside, hopen, ⟨address, afterAddress⟩, haddress, ⟨scope, afterScope⟩, hzone,
      afterBracket, hclose, ⟨p, left⟩, hport, heq⟩
    obtain ⟨rfl, rfl⟩ := Prod.mk.inj (Option.some.inj heq)
    obtain ⟨front, rfl, -, -⟩ := readIpv6_take haddress
    obtain ⟨zone, rfl, -⟩ := readScope_takes _ _ _ hzone
    obtain rfl := readChar_eq_some_iff.mp hclose
    have hscopeRead := (hscope.eq_some_iff afterBracket).mp hzone
    have haddressRead := (readIpv6_before_scope hscopeRead afterBracket).mp haddress
    rw [readChar_eq_some_iff, ← List.append_assoc] at hopen
    obtain ⟨between, rfl, rfl⟩ := exists_bracketed hopen
    obtain ⟨rfl, rfl⟩ := readPort_append_iff.mp hport
    exact ⟨front, zone, address, scope, rfl, haddressRead, hscopeRead, rfl⟩
  · rintro ⟨front, zone, address, scope, rfl, haddress, hzone, rfl⟩
    have hinside : '[' :: (front ++ zone ++ [']']) ++ ':' :: portDigits port =
        '[' :: (front ++ (zone ++ ']' :: ':' :: portDigits port)) := by simp
    have haddress := (readIpv6_before_scope hzone (':' :: portDigits port)).mpr haddress
    have hzone := (hscope.eq_some_iff (':' :: portDigits port)).mpr hzone
    rw [hinside]
    exact ⟨_, rfl, _, haddress, _, hzone, _, rfl, _, readPort_digits port, rfl⟩

end Address

/-- The scope of an IPv6 address, as written behind it: none, or a percent sign and a number. -/
def Ipv6.scope? : String → Option UInt32 := Address.complete Address.readScope

/-- An IPv4 address has no brackets. -/
theorem Ipv4.not_bracketed {text : String} {ip : Ipv4} (h : Ipv4.parse? text = some ip) :
    '[' ∉ text.toList := by
  intro hmem
  rcases Ipv4.dotted_of_parse h _ hmem with hdigit | hdot
  · cases hdigit
  · cases hdot

/-- A host, a colon and a port are a socket address exactly if the host is an IPv4 address, or an
IPv6 address in brackets that may name a scope. -/
theorem SocketAddress.parse_eq_some_iff {host : String} {port : UInt16} {a : SocketAddress} :
    SocketAddress.parse? (host ++ ":" ++ toString port.toNat) = some a ↔
      (∃ ip, Ipv4.parse? host = some ip ∧ a = .v4 ip port) ∨
      ∃ address zone ip scope, host = "[" ++ address ++ zone ++ "]" ∧
        Ipv6.parse? address = some ip ∧ Ipv6.scope? zone = some scope ∧ a = .v6 ip scope port := by
  have htext : (host ++ ":" ++ toString port.toNat).toList =
      host.toList ++ ':' :: Address.portDigits port := by
    rw [String.toList_append, String.toList_append, Address.toList_toString_port, List.append_assoc]
    rfl
  simp only [SocketAddress.parse?, Option.or_eq_some_iff, Address.complete_eq_some_iff, htext,
    Address.readSocketV4_eq_some_iff, Address.readSocketV6_eq_some_iff, Ipv4.parse?, Ipv6.parse?,
    Ipv6.scope?]
  constructor
  · rintro (h4 | ⟨-, front, zone, ip, scope, hhost, hfront, hzone, rfl⟩)
    · exact .inl h4
    · refine .inr ⟨String.ofList front, String.ofList zone, ip, scope, String.toList_inj.mp ?_, ?_⟩
      · simpa using hhost
      · simpa using ⟨hfront, hzone⟩
  · rintro (h4 | ⟨address, zone, ip, scope, rfl, hfront, hzone, rfl⟩)
    · exact .inl h4
    · refine .inr ⟨?_, address.toList, zone.toList, ip, scope, by simp, hfront, hzone, rfl⟩
      refine Option.eq_none_iff_forall_ne_some.mpr fun b hb => ?_
      rw [Address.complete_eq_some_iff, htext, Address.readSocketV4_eq_some_iff] at hb
      obtain ⟨ip4, hip4, -⟩ := hb
      exact Ipv4.not_bracketed (Address.complete_eq_some_iff.mpr hip4) (by simp)

end GaleraProxy
