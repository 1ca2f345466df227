import GaleraProxy.Host.Address
import Mathlib.Data.List.Count

/-!
# What the readers of addresses take

A reader of addresses takes digits, colons and full stops off the front of a text. `StopsAt` says
that a reader never looks beyond a character, so that it reads the same with that character and
anything else behind the text, and `Takes` says what characters it takes. An IPv6 address has at
most eight colons.
-/

namespace GaleraProxy.Address

variable {α β : Type} {c : Char} {text rest tail : List Char}

/-! ## Readers that stop at a character -/

/-- What a reader leaves, with more behind it. -/
def leave (tail : List Char) (p : α × List Char) : α × List Char := (p.1, p.2 ++ tail)

/-- A reader does not look beyond a character. -/
def StopsAt (c : Char) (read : List Char → Option (α × List Char)) : Prop :=
  ∀ text tail, read (text ++ c :: tail) = (read text).map (leave (c :: tail))

theorem StopsAt.bind {read : List Char → Option (α × List Char)}
    {next : α × List Char → Option (β × List Char)} (hread : StopsAt c read)
    (hnext : ∀ a, StopsAt c fun text => next (a, text)) :
    StopsAt c fun text => (read text).bind next := by
  intro text tail
  show (read (text ++ c :: tail)).bind next = ((read text).bind next).map (leave (c :: tail))
  rw [hread text tail]
  cases read text with
  | none => rfl
  | some p => exact hnext p.1 p.2 tail

theorem readChar_append {d : Char} (h : d ≠ c) (text tail : List Char) :
    readChar d (text ++ c :: tail) = (readChar d text).map (· ++ c :: tail) := by
  cases text with
  | nil => exact if_neg h
  | cons e others =>
      show (if d = e then some (others ++ c :: tail) else none) = _
      rw [readChar]
      split
      · rfl
      · rfl

/-- A character that is read comes before what stops. -/
theorem StopsAt.after {d : Char} {next : List Char → Option (β × List Char)}
    (hnext : StopsAt c next) (h : d ≠ c) : StopsAt c fun text => (readChar d text).bind next := by
  intro text tail
  show (readChar d (text ++ c :: tail)).bind next =
    ((readChar d text).bind next).map (leave (c :: tail))
  rw [readChar_append h]
  cases readChar d text with
  | none => rfl
  | some others => exact hnext others tail

theorem stops_pure (a : α) : StopsAt c fun text => some (a, text) := fun _ _ => rfl

theorem digits_append {radix : Nat} (h : digit? radix c = none) (value length : Nat)
    (text tail : List Char) :
    digits radix value length (text ++ c :: tail) =
      ((digits radix value length text).1, (digits radix value length text).2.1,
        (digits radix value length text).2.2 ++ c :: tail) := by
  induction text generalizing value length with
  | nil => simp [digits, h]
  | cons d others ih =>
      rw [List.cons_append, digits, digits]
      cases digit? radix d with
      | none => rfl
      | some n => exact ih _ _

/-- A number is the stretch of digits at the front if it is neither empty nor too wide, keeps below
the bound, and begins with a zero only where that is allowed. -/
theorem readNumber_eq (radix : Nat) (width : Option Nat) (leadingZero : Bool) (bound : Nat)
    (text : List Char) :
    readNumber radix width leadingZero bound text =
      let d := digits radix 0 0 text
      if d.2.1 = 0 ∨ (width.any fun w => w < d.2.1) ∨ bound ≤ d.1 then none
      else if ¬ leadingZero ∧ 1 < d.2.1 ∧ text.head? = some '0' then none
      else some (d.1, d.2.2) :=
  rfl

theorem readNumber_stops {radix : Nat} (h : digit? radix c = none) (width : Option Nat)
    (leadingZero : Bool) (bound : Nat) : StopsAt c (readNumber radix width leadingZero bound) := by
  intro text tail
  cases text with
  | nil => simp [readNumber, digits, h]
  | cons d others =>
      have hhead : (d :: others ++ c :: tail).head? = (d :: others).head? := rfl
      rw [readNumber_eq, readNumber_eq, digits_append h]
      simp only [hhead]
      split
      · rfl
      · split
        · rfl
        · rfl

theorem readOctet_stops (h : digit? 10 c = none) : StopsAt c readOctet := by
  intro text tail
  rw [readOctet, readNumber_stops h (some 3) false 256, readOctet, Option.map_map, Option.map_map]
  rfl

/-- An IPv4 address ends at the latest before a character that is neither a digit nor a full stop.
-/
theorem readIpv4_stops (hdigit : digit? 10 c = none) (hdot : '.' ≠ c) : StopsAt c readIpv4 := by
  have hoctet := readOctet_stops hdigit
  refine hoctet.bind fun a => ?_
  refine StopsAt.after (hoctet.bind fun b => ?_) hdot
  refine StopsAt.after (hoctet.bind fun d => ?_) hdot
  refine StopsAt.after (hoctet.bind fun e => ?_) hdot
  exact stops_pure (Ipv4.mk a b d e)

/-- What stops an IPv6 address: a character that is neither a hexadecimal digit nor a colon nor a
full stop. -/
structure Ends (c : Char) : Prop where
  digit : digit? 16 c = none
  colon : ':' ≠ c
  dot : '.' ≠ c

/-- What is no hexadecimal digit is no decimal one. -/
theorem decimal_of_hexadecimal (h : digit? 16 c = none) : digit? 10 c = none := by
  rw [digit?, Option.filter_eq_none_iff] at h ⊢
  intro d hd
  have hge := h d hd
  simp only [decide_eq_true_eq] at hge ⊢
  omega

theorem Ends.ipv4_stops (h : Ends c) : StopsAt c readIpv4 :=
  readIpv4_stops (decimal_of_hexadecimal h.digit) h.dot

/-- What comes between two groups, or nothing before the first one. -/
def separator (first : Bool) (text : List Char) : Option (List Char) :=
  if first then some text else readChar ':' text

theorem StopsAt.separated (h : ':' ≠ c) (first : Bool) {next : List Char → Option (β × List Char)}
    (hnext : StopsAt c next) : StopsAt c fun text => (separator first text).bind next := by
  cases first with
  | true => exact hnext
  | false => exact hnext.after h

/-- Read an IPv4 address that fills two groups, where there is room for them. -/
def readEmbedded (first : Bool) (room : Nat) (text : List Char) : Option (Ipv4 × List Char) :=
  if room = 0 then none else (separator first text).bind readIpv4

/-- Read one group. -/
def readGroup (first : Bool) (text : List Char) : Option (Nat × List Char) :=
  (separator first text).bind (readNumber 16 (some 4) true 65536)

theorem Ends.embedded_stops (h : Ends c) (first : Bool) (room : Nat) :
    StopsAt c (readEmbedded first room) := by
  intro text tail
  by_cases hroom : room = 0
  · rw [readEmbedded, readEmbedded, if_pos hroom, if_pos hroom]
    rfl
  · rw [readEmbedded, readEmbedded, if_neg hroom, if_neg hroom]
    exact h.ipv4_stops.separated h.colon first text tail

theorem Ends.group_stops (h : Ends c) (first : Bool) : StopsAt c (readGroup first) :=
  (readNumber_stops h.digit (some 4) true 65536).separated h.colon first

/-- Reading groups: an IPv4 address fills the last two, and otherwise a group is a number. -/
theorem readGroups_succ (first : Bool) (room : Nat) (text : List Char) :
    readGroups first (room + 1) text =
      match readEmbedded first room text with
      | some (v4, rest) => (Ipv4.groups v4, true, rest)
      | none =>
          match readGroup first text with
          | none => ([], false, text)
          | some (g, rest) =>
              (UInt16.ofNat g :: (readGroups false room rest).1, (readGroups false room rest).2) :=
  rfl

/-- Groups end at the latest before a character that stops an address. -/
theorem Ends.groups_append (h : Ends c) (first : Bool) (room : Nat) (text tail : List Char) :
    readGroups first room (text ++ c :: tail) =
      ((readGroups first room text).1, leave (c :: tail) (readGroups first room text).2) := by
  induction room generalizing first text with
  | zero => rfl
  | succ room ih =>
      rw [readGroups_succ, readGroups_succ, h.embedded_stops first room, h.group_stops first]
      cases readEmbedded first room text with
      | some p => rfl
      | none =>
          cases readGroup first text with
          | none => rfl
          | some p =>
              obtain ⟨g, rest⟩ := p
              simp only [Option.map_some, Option.map_none, leave, ih]

/-- Read what comes after a double colon, and fill up with zeros. -/
def readBack (front : List UInt16) (text : List Char) : Option (Ipv6 × List Char) :=
  let back := readGroups true (7 - front.length) text
  some (⟨front ++ List.replicate (8 - front.length - back.1.length) 0 ++ back.1⟩, back.2.2)

/-- An IPv6 address is eight groups, or groups on both sides of a double colon. -/
theorem readIpv6_eq (text : List Char) :
    readIpv6 text =
      let front := readGroups true 8 text
      if front.1.length = 8 then some (⟨front.1⟩, front.2.2)
      else if front.2.1 then none
      else (readChar ':' front.2.2).bind fun text => (readChar ':' text).bind (readBack front.1) :=
  rfl

theorem Ends.back_stops (h : Ends c) (front : List UInt16) : StopsAt c (readBack front) := by
  intro text tail
  simp only [readBack, h.groups_append, leave, Option.map_some]

/-- An IPv6 address ends at the latest before a character that stops it. -/
theorem Ends.ipv6_stops (h : Ends c) : StopsAt c readIpv6 := by
  intro text tail
  rw [readIpv6_eq, readIpv6_eq, h.groups_append]
  obtain ⟨front, embedded, rest⟩ := readGroups true 8 text
  simp only [leave]
  by_cases hfull : front.length = 8
  · rw [if_pos hfull, if_pos hfull]
    rfl
  · rw [if_neg hfull, if_neg hfull]
    cases embedded with
    | true => rfl
    | false => exact (((h.back_stops front).after h.colon).after h.colon) rest tail

/-! ## What is taken -/

/-- A character of an IPv6 address. -/
def IsAddressChar (c : Char) : Prop := (digit? 16 c).isSome = true ∨ c = ':' ∨ c = '.'

/-- A reader takes only characters of one kind. -/
def Takes (p : Char → Prop) (read : List Char → Option (α × List Char)) : Prop :=
  ∀ text a rest, read text = some (a, rest) → ∃ taken, text = taken ++ rest ∧ ∀ c ∈ taken, p c

theorem digits_take (radix value length : Nat) (text : List Char) :
    ∃ taken, text = taken ++ (digits radix value length text).2.2 ∧
      ∀ c ∈ taken, (digit? radix c).isSome = true := by
  induction text generalizing value length with
  | nil => exact ⟨[], rfl, by simp⟩
  | cons d others ih =>
      rw [digits]
      cases hd : digit? radix d with
      | none => exact ⟨[], rfl, by simp⟩
      | some n =>
          obtain ⟨taken, hothers, htaken⟩ := ih (value * radix + n) (length + 1)
          refine ⟨d :: taken, congrArg (d :: ·) hothers, ?_⟩
          intro e he
          rcases List.mem_cons.mp he with rfl | hmem
          · rw [hd]
            rfl
          · exact htaken e hmem

theorem readNumber_eq_some {radix : Nat} {width : Option Nat} {leadingZero : Bool} {bound n : Nat}
    (h : readNumber radix width leadingZero bound text = some (n, rest)) :
    n < bound ∧ ∃ length, digits radix 0 0 text = (n, length, rest) := by
  rw [readNumber_eq] at h
  simp only at h
  split at h
  · cases h
  · rename_i hgood
    split at h
    · cases h
    · obtain ⟨rfl, rfl⟩ := Prod.mk.inj (Option.some.inj h)
      exact ⟨Nat.lt_of_not_le fun hle => hgood (.inr (.inr hle)), _, rfl⟩

theorem readNumber_takes (radix : Nat) (width : Option Nat) (leadingZero : Bool) (bound : Nat) :
    Takes (fun c => (digit? radix c).isSome = true) (readNumber radix width leadingZero bound) := by
  intro text n rest h
  obtain ⟨-, length, hdigits⟩ := readNumber_eq_some h
  have htake := digits_take radix 0 0 text
  rwa [hdigits] at htake

theorem readChar_eq_some_iff {d : Char} : readChar d text = some rest ↔ text = d :: rest := by
  cases text with
  | nil => simp [readChar]
  | cons e others =>
      rw [readChar, Option.ite_none_right_eq_some, Option.some.injEq, List.cons.injEq]
      exact and_congr_left fun _ => eq_comm

theorem Takes.bind {p : Char → Prop} {read : List Char → Option (α × List Char)}
    {next : α × List Char → Option (β × List Char)} (hread : Takes p read)
    (hnext : ∀ a, Takes p fun text => next (a, text)) :
    Takes p fun text => (read text).bind next := by
  intro text b rest h
  obtain ⟨⟨a, between⟩, hfirst, hsecond⟩ := Option.bind_eq_some_iff.mp h
  obtain ⟨front, rfl, hfront⟩ := hread _ _ _ hfirst
  obtain ⟨back, rfl, hback⟩ := hnext a _ _ _ hsecond
  refine ⟨front ++ back, (List.append_assoc _ _ _).symm, fun c hc => ?_⟩
  exact (List.mem_append.mp hc).elim (hfront c) (hback c)

theorem Takes.after {p : Char → Prop} {next : List Char → Option (β × List Char)} {d : Char}
    (hnext : Takes p next) (hd : p d) : Takes p fun text => (readChar d text).bind next := by
  intro text b rest h
  obtain ⟨between, hfirst, hsecond⟩ := Option.bind_eq_some_iff.mp h
  obtain rfl := readChar_eq_some_iff.mp hfirst
  obtain ⟨back, rfl, hback⟩ := hnext _ _ _ hsecond
  refine ⟨d :: back, rfl, fun c hc => ?_⟩
  rcases List.mem_cons.mp hc with rfl | hmem
  · exact hd
  · exact hback c hmem

theorem takes_nothing {p : Char → Prop} (a : α) : Takes p fun text => some (a, text) := by
  intro text b rest h
  obtain ⟨-, rfl⟩ := Prod.mk.inj (Option.some.inj h)
  exact ⟨[], rfl, by simp⟩

/-- A character of an IPv4 address. -/
def IsDotted (c : Char) : Prop := (digit? 10 c).isSome = true ∨ c = '.'

theorem readOctet_takes : Takes IsDotted readOctet := by
  intro text octet rest h
  obtain ⟨⟨n, own⟩, hnumber, heq⟩ := Option.map_eq_some_iff.mp h
  obtain ⟨-, rfl⟩ := Prod.mk.inj heq
  obtain ⟨taken, htext, htaken⟩ := readNumber_takes 10 (some 3) false 256 _ _ _ hnumber
  exact ⟨taken, htext, fun c hc => .inl (htaken c hc)⟩

theorem readIpv4_takes : Takes IsDotted readIpv4 := by
  have hoctet := readOctet_takes
  have hdot : IsDotted '.' := .inr rfl
  refine Takes.bind hoctet fun a => ?_
  refine Takes.after (Takes.bind hoctet fun b => ?_) hdot
  refine Takes.after (Takes.bind hoctet fun d => ?_) hdot
  refine Takes.after (Takes.bind hoctet fun e => ?_) hdot
  exact takes_nothing (Ipv4.mk a b d e)

/-! ## Colons -/

/-- A character of an IPv6 address other than a colon. -/
def IsInGroup (c : Char) : Prop := (digit? 16 c).isSome = true ∨ c = '.'

theorem IsDotted.inGroup (h : IsDotted c) : IsInGroup c := by
  rcases h with hdigit | hdot
  · refine .inl ?_
    by_contra hnone
    rw [decimal_of_hexadecimal (Option.not_isSome_iff_eq_none.mp hnone)] at hdigit
    cases hdigit
  · exact .inr hdot

theorem IsInGroup.isAddressChar (h : IsInGroup c) : IsAddressChar c := h.imp_right .inr

theorem not_isInGroup_colon : ¬ IsInGroup ':' := by
  rintro (hdigit | hdot)
  · cases hdigit
  · cases hdot

theorem count_colon_of_inGroup {taken : List Char} (h : ∀ c ∈ taken, IsInGroup c) :
    taken.count ':' = 0 :=
  List.count_eq_zero.mpr fun hmem => not_isInGroup_colon (h ':' hmem)

/-- Characters of an address are taken off a text, with no more than a number of colons. -/
def TakesColons (colons : Nat) (text rest : List Char) : Prop :=
  ∃ taken, text = taken ++ rest ∧ (∀ c ∈ taken, IsAddressChar c) ∧ taken.count ':' ≤ colons

theorem TakesColons.trans {m n : Nat} {between : List Char} (hfirst : TakesColons m text between)
    (hsecond : TakesColons n between rest) : TakesColons (m + n) text rest := by
  obtain ⟨front, rfl, hfront, hm⟩ := hfirst
  obtain ⟨back, rfl, hback, hn⟩ := hsecond
  refine ⟨front ++ back, (List.append_assoc _ _ _).symm, fun c hc => ?_, ?_⟩
  · exact (List.mem_append.mp hc).elim (hfront c) (hback c)
  · rw [List.count_append]
    omega

theorem TakesColons.mono {m n : Nat} (h : TakesColons m text rest) (hle : m ≤ n) :
    TakesColons n text rest := by
  obtain ⟨taken, htext, htaken, hm⟩ := h
  exact ⟨taken, htext, htaken, Nat.le_trans hm hle⟩

theorem takesColons_none (text : List Char) : TakesColons 0 text text := ⟨[], rfl, by simp, by simp⟩

theorem takesColons_readChar (h : readChar ':' text = some rest) : TakesColons 1 text rest := by
  obtain rfl := readChar_eq_some_iff.mp h
  refine ⟨[':'], rfl, fun c hc => ?_, by simp⟩
  exact .inr (.inl (List.mem_singleton.mp hc))

/-- The colons between groups: there is none before the first one. -/
def separators (first : Bool) : Nat := if first then 0 else 1

/-- What is read after a separator has no colons itself. -/
theorem takesColons_separated {next : List Char → Option (β × List Char)} {first : Bool} {b : β}
    (hnext : Takes IsInGroup next) (h : (separator first text).bind next = some (b, rest)) :
    TakesColons (separators first) text rest := by
  obtain ⟨between, hfirst, hsecond⟩ := Option.bind_eq_some_iff.mp h
  obtain ⟨taken, htext, htaken⟩ := hnext _ _ _ hsecond
  have hback : TakesColons 0 between rest :=
    ⟨taken, htext, fun c hc => (htaken c hc).isAddressChar,
      Nat.le_of_eq (count_colon_of_inGroup htaken)⟩
  cases first with
  | true =>
      obtain rfl := Option.some.inj hfirst
      exact hback
  | false => exact (takesColons_readChar hfirst).trans hback

/-- The colons of groups: one before each of them but the first one of all. -/
def colonsOf (first : Bool) (groups : Nat) : Nat := if first then groups - 1 else groups

/-- There is a colon between two groups, and there are no more groups than there is room for. -/
theorem readGroups_take (first : Bool) (room : Nat) (text : List Char) :
    (readGroups first room text).1.length ≤ room ∧
      TakesColons (colonsOf first (readGroups first room text).1.length) text
        (readGroups first room text).2.2 := by
  have hipv4 : Takes IsInGroup readIpv4 := fun text a rest h => by
    obtain ⟨taken, htext, htaken⟩ := readIpv4_takes text a rest h
    exact ⟨taken, htext, fun c hc => (htaken c hc).inGroup⟩
  have hnumber : Takes IsInGroup (readNumber 16 (some 4) true 65536) := fun text a rest h => by
    obtain ⟨taken, htext, htaken⟩ := readNumber_takes 16 (some 4) true 65536 text a rest h
    exact ⟨taken, htext, fun c hc => .inl (htaken c hc)⟩
  induction room generalizing first text with
  | zero => exact ⟨Nat.le_refl _, (takesColons_none text).mono (Nat.zero_le _)⟩
  | succ room ih =>
      rw [readGroups_succ]
      cases hembedded : readEmbedded first room text with
      | some p =>
          obtain ⟨hroom, hread⟩ := Option.ite_none_left_eq_some.mp hembedded
          refine ⟨?_, (takesColons_separated hipv4 hread).mono ?_⟩
          · show 2 ≤ room + 1
            omega
          · show separators first ≤ colonsOf first 2
            cases first <;> decide
      | none =>
          cases hgroup : readGroup first text with
          | none =>
              exact ⟨Nat.zero_le _, (takesColons_none text).mono (Nat.zero_le _)⟩
          | some p =>
              obtain ⟨g, between⟩ := p
              obtain ⟨hlength, hothers⟩ := ih false between
              refine ⟨Nat.succ_le_succ hlength, ?_⟩
              refine ((takesColons_separated hnumber hgroup).trans hothers).mono ?_
              show separators first + (readGroups false room between).1.length ≤
                colonsOf first ((readGroups false room between).1.length + 1)
              cases first with
              | true => exact Nat.le_of_eq (Nat.zero_add _)
              | false => exact Nat.le_of_eq (Nat.add_comm 1 _)

/-- An IPv6 address has at most eight colons. -/
theorem readIpv6_take {address : Ipv6} (h : readIpv6 text = some (address, rest)) :
    TakesColons 8 text rest := by
  obtain ⟨hlength, hfront⟩ := readGroups_take true 8 text
  rw [readIpv6_eq] at h
  generalize readGroups true 8 text = front at hlength hfront h
  by_cases hfull : front.1.length = 8
  · rw [if_pos hfull] at h
    obtain ⟨-, rfl⟩ := Prod.mk.inj (Option.some.inj h)
    exact hfront.mono (Nat.le_trans (Nat.sub_le _ _) hlength)
  · rw [if_neg hfull] at h
    obtain ⟨-, h⟩ := Option.ite_none_left_eq_some.mp h
    obtain ⟨afterFirst, hfirst, h⟩ := Option.bind_eq_some_iff.mp h
    obtain ⟨afterSecond, hsecond, h⟩ := Option.bind_eq_some_iff.mp h
    obtain ⟨-, rfl⟩ := Prod.mk.inj (Option.some.inj h)
    obtain ⟨hroom, hback⟩ := readGroups_take true (7 - front.1.length) afterSecond
    have hdouble := (takesColons_readChar hfirst).trans (takesColons_readChar hsecond)
    refine (hfront.trans (hdouble.trans hback)).mono ?_
    simp only [colonsOf, if_true]
    omega

theorem complete_eq_some_iff {read : List Char → Option (α × List Char)} {address : String}
    {a : α} : complete read address = some a ↔ read address.toList = some (a, []) := by
  rw [complete]
  split
  · rename_i own heq
    rw [heq]
    simp
  · rename_i hother
    constructor
    · rintro ⟨⟩
    · exact fun h => absurd h (hother a)

end GaleraProxy.Address

namespace GaleraProxy

/-- The text of an IPv4 address is made of digits and full stops. -/
theorem Ipv4.dotted_of_parse {text : String} {address : Ipv4}
    (h : Ipv4.parse? text = some address) : ∀ c ∈ text.toList, Address.IsDotted c := by
  obtain ⟨taken, htext, htaken⟩ :=
    Address.readIpv4_takes _ _ _ (Address.complete_eq_some_iff.mp h)
  rw [htext, List.append_nil]
  exact htaken

/-- The text of an IPv6 address is made of hexadecimal digits, full stops and at most eight colons.
-/
theorem Ipv6.chars_of_parse {text : String} {address : Ipv6} (h : Ipv6.parse? text = some address) :
    (∀ c ∈ text.toList, Address.IsAddressChar c) ∧ text.toList.count ':' ≤ 8 := by
  obtain ⟨taken, htext, htaken, hcolons⟩ :=
    Address.readIpv6_take (Address.complete_eq_some_iff.mp h)
  rw [htext, List.append_nil]
  exact ⟨htaken, hcolons⟩

end GaleraProxy
