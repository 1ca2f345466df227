import GaleraProxy.Host.Basic
import GaleraProxy.Proofs.Basic
import GaleraProxy.Proofs.Host.Address
import GaleraProxy.Proofs.Text.Utf8

/-!
# What is known of a valid host

A valid host that begins with a bracket is an IPv6 address in brackets, and no other valid host has
a bracket or an at sign. Neither percent decoding nor the mapping and the composition of characters
does away with such a character, and a domain name may not contain it.
-/

namespace GaleraProxy

/-! ## Percent decoding -/

/-- A byte below 0x80 is all there is of its character. -/
theorem Utf8.char_of_byte {c : Char} {b : UInt8} (hb : b.toNat < 0x80)
    (h : b ∈ String.utf8EncodeChar c) : c = Char.ofNat b.toNat := by
  have hstands := stands_encode c
  have htail : ¬ IsTail b := fun htail => Nat.not_le.mpr hb htail.1
  generalize String.utf8EncodeChar c = bytes at h hstands
  cases hstands with
  | one ha =>
      obtain rfl := List.mem_singleton.mp h
      rfl
  | two ha hb' =>
      simp only [List.mem_cons, List.not_mem_nil, or_false] at h
      rcases h with rfl | rfl
      · omega
      · exact absurd hb' htail
  | three ha hb' hlow hhigh hc =>
      simp only [List.mem_cons, List.not_mem_nil, or_false] at h
      rcases h with rfl | rfl | rfl
      · omega
      · exact absurd hb' htail
      · exact absurd hc htail
  | four ha hb' hlow hhigh hc hd =>
      simp only [List.mem_cons, List.not_mem_nil, or_false] at h
      rcases h with rfl | rfl | rfl | rfl
      · omega
      · exact absurd hb' htail
      · exact absurd hc htail
      · exact absurd hd htail

/-- Only percent signs and digits are replaced. -/
theorem Percent.mem_decode {bytes : List UInt8} {b : UInt8} (hsign : b ≠ 0x25)
    (hdigit : digitValue? (Char.ofNat b.toNat) = none) (h : b ∈ bytes) : b ∈ decode bytes := by
  induction bytes using decode.induct with
  | case1 => cases h
  | case2 first second rest byte hpair ih =>
      have hfirst : b ≠ first := by
        rintro rfl
        simp [hexPair?, hdigit] at hpair
      have hsecond : b ≠ second := by
        rintro rfl
        cases hhigh : digitValue? (Char.ofNat first.toNat) <;>
          simp [hexPair?, hdigit, hhigh] at hpair
      simp only [List.mem_cons, hsign, hfirst, hsecond, false_or] at h
      simp only [decode, hpair]
      exact List.mem_cons_of_mem _ (ih h)
  | case3 first second rest hpair ih =>
      simp only [decode, hpair]
      exact List.mem_cons_of_mem _ (ih ((List.mem_cons.mp h).resolve_left hsign))
  | case4 first rest hother ih =>
      rw [decode]
      · rcases List.mem_cons.mp h with rfl | hrest
        · exact List.mem_cons_self
        · exact List.mem_cons_of_mem _ (ih hrest)
      · exact hother

/-! ## Composition -/

namespace Unicode

/-- A character is neither taken apart nor joined with another one. -/
structure Inert (c : Char) : Prop where
  whole : ∀ fuel, decomposed fuel c = [c]
  starts : combiningClass c = 0
  first : ∀ d, composePair? c d = none
  second : ∀ d, composePair? d c = none

/-- A basic character that is no letter and none of the three signs is inert. -/
theorem inert_of_basic {c : Char} (hbasic : c.toNat < 0x80)
    (hother : (c.isAlpha || ['<', '=', '>'].contains c) = false) : Inert c where
  whole fuel := by
    cases fuel with
    | zero => rfl
    | succ fuel =>
        have hwhole : canonicalParts? c = none := if_pos (by omega)
        rw [decomposed, hwhole]
  starts := by
    have hlow : c.toNat < 0x300 := by omega
    simp [combiningClass, hlow]
  first d := by
    have hnot : mayCompose c d = false := by
      rw [mayCompose, Bool.or_assoc, hother, decide_eq_false (Nat.not_le.mpr hbasic)]
      simp
    simp [composePair?, hnot]
  second d := by
    have hnot : mayCompose d c = false := by
      rw [mayCompose, decide_eq_false (by omega), Bool.false_and]
    simp [composePair?, hnot]

variable {c : Char}

theorem mem_insertMark {d : Char} {ccc : Nat} {marks : List (Char × Nat)} {mark : Char × Nat}
    (h : mark ∈ marks) : mark ∈ insertMark d ccc marks := by
  induction marks with
  | nil => cases h
  | cons other rest ih =>
      rw [insertMark]
      split
      · rcases List.mem_cons.mp h with rfl | hrest
        · exact List.mem_cons_self
        · exact List.mem_cons_of_mem _ (ih hrest)
      · exact List.mem_cons_of_mem _ h

/-- Sorting the marks leaves an inert character in the text. -/
theorem mem_sortMarks (h : Inert c) {text : List Char} (hc : c ∈ text) :
    (c, 0) ∈ sortMarks text := by
  rw [sortMarks]
  refine of_foldl (P := fun done => (c, 0) ∈ done) hc ?_ ?_ []
  · intro done
    simp [h.starts]
  · intro done d hdone
    dsimp only
    split
    · exact List.mem_cons_of_mem _ hdone
    · exact mem_insertMark hdone

/-- A character is in the text that has been composed so far. -/
def Composition.Has (s : Composition) (c : Char) : Prop :=
  c ∈ s.done ∨ ∃ starter, s.starter = some starter ∧ (c = starter ∨ c ∈ s.kept)

theorem Composition.Has.finish {s : Composition} (h : s.Has c) : c ∈ s.finish := by
  rw [Composition.finish]
  rcases h with hdone | ⟨starter, hstarter, hkept⟩
  · split
    · simp [hdone]
    · simp [hdone]
  · simp only [hstarter, List.mem_reverse, List.mem_append, List.mem_cons]
    rcases hkept with rfl | hmem
    · exact .inr (.inl rfl)
    · exact .inl hmem

/-- An inert character stays in the text while others are taken in. -/
theorem Composition.Has.push {s : Composition} (h : Inert c) (hs : s.Has c) (d : Char)
    (ccc : Nat) : (s.push d ccc).Has c := by
  obtain ⟨done, starter, kept, lastClass⟩ := s
  cases starter with
  | none =>
      have hdone : c ∈ done := hs.resolve_right (by rintro ⟨starter, ⟨⟩, -⟩)
      simp only [Composition.push]
      split
      · exact .inl hdone
      · exact .inl (List.mem_cons_of_mem _ hdone)
  | some first =>
      have hcases : c ∈ done ∨ c = first ∨ c ∈ kept := by simpa [Has] using hs
      simp only [Composition.push]
      split
      · rename_i joined hjoined
        -- an inert starter joins with nothing
        have hne : c ≠ first := by
          rintro rfl
          rw [h.first, ite_self] at hjoined
          cases hjoined
        rcases hcases with hdone | rfl | hkept
        · exact .inl hdone
        · exact absurd rfl hne
        · exact .inr ⟨joined, rfl, .inr hkept⟩
      · split
        · refine .inl ?_
          simp only [List.mem_append, List.mem_cons]
          rcases hcases with hdone | rfl | hkept
          · exact .inr (.inr hdone)
          · exact .inr (.inl rfl)
          · exact .inl hkept
        · rcases hcases with hdone | rfl | hkept
          · exact .inl hdone
          · exact .inr ⟨c, rfl, .inl rfl⟩
          · exact .inr ⟨first, rfl, .inr (List.mem_cons_of_mem _ hkept)⟩

/-- An inert character is taken in as a starter. -/
theorem Composition.has_push (h : Inert c) (s : Composition) : (s.push c 0).Has c := by
  obtain ⟨done, starter, kept, lastClass⟩ := s
  cases starter with
  | none => exact .inr ⟨c, rfl, .inl rfl⟩
  | some first =>
      simp only [Composition.push, h.second, ite_self, if_true]
      exact .inr ⟨c, rfl, .inl rfl⟩

/-- Composition leaves an inert character in the text. -/
theorem mem_composed (h : Inert c) {text : List Char} (hc : c ∈ text) : c ∈ composed text := by
  have hparts : c ∈ text.flatMap (decomposed 8) :=
    List.mem_flatMap.mpr ⟨c, hc, by simp [h.whole]⟩
  have hmark := List.mem_reverse.mpr (mem_sortMarks h hparts)
  refine Composition.Has.finish (of_foldl (P := (Composition.Has · c)) hmark ?_ ?_ _)
  · exact Composition.has_push h
  · intro s mark hs
    exact hs.push h mark.1 mark.2

end Unicode

namespace Host

variable {host : String}

theorem validate_eq_ok_iff :
    validate host = .ok () ↔
      host.isEmpty = false ∧ (isAddress host = true ∨ (parse? host).isSome = true) := by
  rw [validate, ← Bool.or_eq_true]
  by_cases hempty : host.isEmpty = true
  · simp [hempty]
  · by_cases haccepted : (isAddress host || (parse? host).isSome) = true
    · simp [hempty, haccepted]
    · simp [hempty, haccepted]

theorem isAddress_iff :
    isAddress host = true ↔
      (∃ ip, Ipv4.parse? host = some ip) ∨ ∃ ip, Ipv6.parse? host = some ip := by
  rw [isAddress, Bool.or_eq_true, Option.isSome_iff_exists, Option.isSome_iff_exists]

/-- The plain form of an address has neither brackets nor an at sign. -/
theorem not_mem_of_isAddress {c : Char} (h : isAddress host = true) (hc : c ∈ ['[', ']', '@']) :
    c ∉ host.toList := by
  have hnotChar : ¬ Address.IsAddressChar c := by
    simp only [List.mem_cons, List.not_mem_nil, or_false] at hc
    rcases hc with rfl | rfl | rfl
    · rintro (⟨⟨⟩⟩ | ⟨⟨⟩⟩ | ⟨⟨⟩⟩)
    · rintro (⟨⟨⟩⟩ | ⟨⟨⟩⟩ | ⟨⟨⟩⟩)
    · rintro (⟨⟨⟩⟩ | ⟨⟨⟩⟩ | ⟨⟨⟩⟩)
  intro hmem
  rcases isAddress_iff.mp h with ⟨ip, hip⟩ | ⟨ip, hip⟩
  · exact hnotChar (Ipv4.dotted_of_parse hip c hmem).inGroup.isAddressChar
  · exact hnotChar ((Ipv6.chars_of_parse hip).1 c hmem)

/-- A valid host that begins with a bracket is an IPv6 address in brackets. -/
theorem bracketed_of_validate (h : validate host = .ok ()) (hhead : host.toList.head? = some '[') :
    ∃ address ip, host = "[" ++ address ++ "]" ∧ Ipv6.parse? address = some ip := by
  obtain ⟨-, haddress | hparse⟩ := validate_eq_ok_iff.mp h
  · have hnot := not_mem_of_isAddress haddress (c := '[') (by simp)
    exact absurd (List.mem_of_mem_head? hhead) hnot
  · obtain ⟨rest, htext⟩ := List.head?_eq_some_iff.mp hhead
    have hbracket : parse? host =
        if rest.getLast? = some ']' then
          (Ipv6.parse? (String.ofList rest.dropLast)).map .ipv6
        else none := by
      rw [parse?, htext]
      rfl
    rw [hbracket] at hparse
    split at hparse
    · rename_i hlast
      obtain ⟨inside, rfl⟩ := List.getLast?_eq_some_iff.mp hlast
      rw [Option.isSome_map, Option.isSome_iff_exists, List.dropLast_concat] at hparse
      obtain ⟨ip, hip⟩ := hparse
      refine ⟨String.ofList inside, ip, String.toList_inj.mp ?_, hip⟩
      simpa using htext
    · cases hparse

/-- Percent decoding leaves a bracket or an at sign in a text. -/
theorem mem_of_decode {text decoded : String} {c : Char}
    (h : Utf8.decode? (Percent.decode (Utf8.encode text)) = some decoded)
    (hc : c ∈ ['[', ']', '@']) (hmem : c ∈ text.toList) : c ∈ decoded.toList := by
  have hmarks : ∀ d ∈ ['[', ']', '@'], ∃ b : UInt8, String.utf8EncodeChar d = [b] ∧
      b ≠ 0x25 ∧ digitValue? (Char.ofNat b.toNat) = none ∧ b.toNat < 0x80 ∧
      Char.ofNat b.toNat = d := by
    simp only [List.forall_mem_cons]
    exact ⟨⟨0x5B, by decide⟩, ⟨0x5D, by decide⟩, ⟨0x40, by decide⟩, nofun⟩
  obtain ⟨b, hbyte, hsign, hdigit, hbasic, hchar⟩ := hmarks c hc
  have hencoded : b ∈ Utf8.encode text := by
    rw [Utf8.encode_eq_flatMap]
    exact List.mem_flatMap.mpr ⟨c, hmem, by simp [hbyte]⟩
  have hdecoded := Percent.mem_decode hsign hdigit hencoded
  rw [Utf8.decode_eq_some_iff.mp h, Utf8.encode_eq_flatMap] at hdecoded
  obtain ⟨d, hd, hbd⟩ := List.mem_flatMap.mp hdecoded
  rw [← hchar, ← Utf8.char_of_byte hbasic hbd]
  exact hd

/-- A name with a bracket or an at sign is no domain name. -/
theorem not_mem_of_normalize {name : List Char} {labels : List (List Char)} {c : Char}
    (h : DomainName.normalize? name = some labels) (hc : c ∈ ['[', ']', '@']) : c ∉ name := by
  have hmarks : ∀ d ∈ ['[', ']', '@'], d.toNat < 0x80 ∧
      (d.isAlpha || ['<', '=', '>'].contains d) = false ∧
      DomainName.lowerBasic d = d ∧ DomainName.isForbidden d = true := by
    simp only [List.forall_mem_cons]
    exact ⟨by decide, by decide, by decide, nofun⟩
  obtain ⟨hbasic, hother, hlower, hforbidden⟩ := hmarks c hc
  have hchar : DomainName.mapChar? c = some [c] := by
    rw [DomainName.mapChar?, DomainName.isBasic, if_pos (by simpa using hbasic), hlower]
  intro hmem
  obtain ⟨mapped, hmapped, h⟩ := Option.bind_eq_some_iff.mp h
  have hstays : c ∈ mapped := by
    rw [DomainName.mapText?] at hmapped
    split at hmapped
    · obtain rfl := Option.some.inj hmapped
      exact List.mem_map.mpr ⟨c, hmem, hlower⟩
    · obtain ⟨parts, hparts, rfl⟩ := Option.map_eq_some_iff.mp hmapped
      refine Unicode.mem_composed (Unicode.inert_of_basic hbasic hother) ?_
      exact List.mem_flatten.mpr ⟨[c], mem_of_mapM hparts hmem hchar, List.mem_singleton_self c⟩
  rw [if_pos (List.any_eq_true.mpr ⟨c, hstays, hforbidden⟩)] at h
  cases h

/-- A valid host that does not begin with a bracket has no bracket and no at sign. -/
theorem not_mem_of_validate {c : Char} (h : validate host = .ok ())
    (hhead : host.toList.head? ≠ some '[') (hc : c ∈ ['[', ']', '@']) : c ∉ host.toList := by
  obtain ⟨-, haddress | hparse⟩ := validate_eq_ok_iff.mp h
  · exact not_mem_of_isAddress haddress hc
  · obtain ⟨value, hvalue⟩ := Option.isSome_iff_exists.mp hparse
    rw [parse?] at hvalue
    split at hvalue
    · rename_i rest htext
      exact absurd (htext ▸ rfl) hhead
    · obtain ⟨decoded, hdecoded, hvalue⟩ := Option.bind_eq_some_iff.mp hvalue
      obtain ⟨labels, hlabels, -⟩ := Option.bind_eq_some_iff.mp hvalue
      intro hmem
      exact not_mem_of_normalize hlabels hc (mem_of_decode hdecoded hc hmem)

end Host

end GaleraProxy
