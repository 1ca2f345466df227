import GaleraProxy.Json.Number
import GaleraProxy.Proofs.Basic
import GaleraProxy.Proofs.Json.Text
import Mathlib.Data.List.Induction

/-!
# Whole numbers that are written are read back

`number_digits` says that the digits of a natural number of 64 bits are read as that number. From it
follows for whole numbers, with a sign or without, that `number` reads what `toString` writes, if
they have 64 bits and what comes after them does not go on with the number.
-/

namespace GaleraProxy.Json

open Document (Scalar)

/-- What may follow a value in a written text: nothing, or the end or the next part of the list or
object around it. -/
inductive Follows : List UInt8 → Prop where
  | nothing : Follows []
  | comma (rest : List UInt8) : Follows (0x2C :: rest)
  | bracket (rest : List UInt8) : Follows (0x5D :: rest)
  | brace (rest : List UInt8) : Follows (0x7D :: rest)

/-- What comes after a number does not go on with it. -/
def Ends (s : List UInt8) : Prop :=
  ∀ b, s.head? = some b → isDigit b = false ∧ b ≠ 0x2E ∧ b ≠ 0x65 ∧ b ≠ 0x45

theorem Follows.ends {rest : List UInt8} (h : Follows rest) : Ends rest := by
  intro b hb
  cases h with
  | nothing => cases hb
  | comma | bracket | brace =>
      obtain rfl := Option.some.inj hb
      decide

/-- The digits of a number are the bytes of its decimal form. -/
def digits (n : Nat) : List UInt8 := Utf8.bytes (Nat.toDigits 10 n)

/-! ## Digits -/

theorem digit_byte :
    ∀ d < 10, (String.utf8EncodeChar (Nat.digitChar d)).map
      (fun b => (isDigit b, digitValue b, decide (b = 0x30))) = [(true, d, decide (d = 0))] := by
  decide +kernel

/-- A digit is one byte, which is that of a zero only for zero. -/
theorem exists_digit {d : Nat} (h : d < 10) :
    ∃ b, Utf8.bytes [Nat.digitChar d] = [b] ∧ isDigit b = true ∧ digitValue b = d ∧
      (b = 0x30 ↔ d = 0) := by
  obtain ⟨b, hb, hvalues⟩ := List.map_eq_singleton_iff.1 (digit_byte d h)
  simp only [Prod.mk.injEq, decide_eq_decide] at hvalues
  obtain ⟨hdigit, hvalue, hzero⟩ := hvalues
  refine ⟨b, ?_, hdigit, hvalue, hzero⟩
  rw [Utf8.bytes_cons, Utf8.bytes_nil, List.append_nil, hb]

theorem digits_of_lt {n : Nat} (h : n < 10) : digits n = Utf8.bytes [Nat.digitChar n] := by
  rw [digits, Nat.toDigits_of_lt_base h]

theorem digits_of_le {n : Nat} (h : 10 ≤ n) :
    digits n = digits (n / 10) ++ Utf8.bytes [Nat.digitChar (n % 10)] := by
  rw [digits, Nat.toDigits_of_base_le (by omega) h, Utf8.bytes_append]
  rfl

/-- A further digit that fits is added to the significand. -/
theorem collect_digit {b : UInt8} (hdigit : isDigit b = true) {significand : Nat}
    (hfits : significand * 10 + digitValue b ≤ maxWord) (taken offset : Nat) (rest : List UInt8) :
    collect significand taken offset (b :: rest) =
      collect (significand * 10 + digitValue b) (taken + 1) (offset + 1) rest := by
  rw [collect, if_pos hdigit]
  exact if_neg (Nat.not_lt.2 hfits)

/-- The digits of a number are collected into it, the last one after all the others. -/
theorem collect_digits (n : Nat) (hfits : n ≤ maxWord) (offset : Nat) (rest : List UInt8) :
    ∃ taken offset', collect 0 0 offset (digits n ++ rest) = collect n taken offset' rest := by
  induction n using Nat.strongRecOn generalizing rest with
  | ind n ih =>
      by_cases hlt : n < 10
      · obtain ⟨b, hb, hdigit, hvalue, -⟩ := exists_digit hlt
        refine ⟨1, offset + 1, ?_⟩
        rw [digits_of_lt hlt, hb, List.singleton_append, collect_digit hdigit (by omega), hvalue,
          Nat.zero_mul, Nat.zero_add]
      · obtain ⟨b, hb, hdigit, hvalue, -⟩ := exists_digit (Nat.mod_lt n (by omega : 0 < 10))
        obtain ⟨taken, offset', hcollect⟩ := ih (n / 10) (by omega) (by omega) (b :: rest)
        refine ⟨taken + 1, offset' + 1, ?_⟩
        rw [digits_of_le (by omega), hb, List.append_assoc, List.singleton_append, hcollect,
          collect_digit hdigit (by omega), hvalue, Nat.div_add_mod']

/-- A number other than zero does not begin with a zero. -/
theorem digits_head {n : Nat} (h : n ≠ 0) :
    ∃ b bs, digits n = b :: bs ∧ isDigit b = true ∧ b ≠ 0x30 := by
  induction n using Nat.strongRecOn with
  | ind n ih =>
      by_cases hlt : n < 10
      · obtain ⟨b, hb, hdigit, -, hzero⟩ := exists_digit hlt
        exact ⟨b, [], by rw [digits_of_lt hlt, hb], hdigit, fun heq => h (hzero.1 heq)⟩
      · obtain ⟨b, bs, hb, hdigit, hzero⟩ := ih (n / 10) (by omega) (by omega)
        refine ⟨b, bs ++ Utf8.bytes [Nat.digitChar (n % 10)], ?_, hdigit, hzero⟩
        rw [digits_of_le (by omega), hb, List.cons_append]

/-- A number begins with a digit. -/
theorem digits_begin (n : Nat) : ∃ b bs, digits n = b :: bs ∧ isDigit b = true := by
  by_cases h : n = 0
  · subst h
    exact ⟨0x30, [], rfl, rfl⟩
  · obtain ⟨b, bs, hb, hdigit, -⟩ := digits_head h
    exact ⟨b, bs, hb, hdigit⟩

/-! ## Numbers -/

/-- What comes after a number ends the digits. -/
theorem collect_ends {rest : List UInt8} (h : Ends rest) (significand taken offset : Nat) :
    collect significand taken offset rest = (significand, taken, ⟨offset, rest⟩) := by
  cases rest with
  | nil => rfl
  | cons b rest => rw [collect, if_neg (by simp [(h b rfl).1])]

/-- A whole part with nothing after it is the number. -/
theorem afterWhole_ends {rest : List UInt8} (h : Ends rest) (negative : Bool)
    (significand offset : Nat) :
    afterWhole negative significand ⟨offset, rest⟩ =
      if negative then
        if significand = 0 ∨ Int64.minValue.toInt.natAbs < significand then
          .ok (.real (Binary64.ofNat significand).neg, ⟨offset, rest⟩)
        else .ok (.int (-(significand : Int)), ⟨offset, rest⟩)
      else .ok (.int significand, ⟨offset, rest⟩) := by
  unfold afterWhole
  split
  · rename_i hrest
    exact absurd rfl (h 0x2E (congrArg List.head? hrest)).2.1
  · rename_i hrest
    exact absurd rfl (h 0x65 (congrArg List.head? hrest)).2.2.1
  · rename_i hrest
    exact absurd rfl (h 0x45 (congrArg List.head? hrest)).2.2.2
  · rfl

/-- The digits of a number lead to what comes after a whole part of that value. -/
theorem number_digits {n : Nat} (hfits : n ≤ maxWord) {rest : List UInt8} (hrest : Ends rest)
    (negative : Bool) (offset : Nat) :
    ∃ offset', number negative ⟨offset, digits n ++ rest⟩ =
      afterWhole negative n ⟨offset', rest⟩ := by
  by_cases hzero : n = 0
  · -- a zero is the only number that begins with one, and nothing may follow it
    subst hzero
    refine ⟨offset + 1, ?_⟩
    show number negative ⟨offset, 0x30 :: rest⟩ = _
    cases rest with
    | nil => rfl
    | cons b rest =>
        unfold number
        simp only [(hrest b rfl).1, Bool.false_eq_true, if_false]
  · obtain ⟨b, bs, hb, hdigit, hne⟩ := digits_head hzero
    obtain ⟨taken, offset', hcollect⟩ := collect_digits n hfits offset rest
    refine ⟨offset', ?_⟩
    rw [collect_ends hrest, hb, List.cons_append] at hcollect
    rw [hb, List.cons_append]
    unfold number
    split
    · rename_i heq
      cases heq
    · rename_i heq
      cases heq
      exact absurd rfl hne
    · rename_i b' bs' _ heq
      cases heq
      rw [if_pos hdigit]
      simp only [hcollect]
      cases rest with
      | nil => rfl
      | cons c rest => simp only [(hrest c rfl).1, Bool.false_eq_true, if_false]

/-- A natural number of 64 bits is read back. -/
theorem number_nat {n : Nat} (hfits : n < UInt64.size) {rest : List UInt8} (hrest : Ends rest)
    (offset : Nat) :
    ∃ offset', number false ⟨offset, digits n ++ rest⟩ = .ok (.int n, ⟨offset', rest⟩) := by
  obtain ⟨offset', hnumber⟩ := number_digits (Nat.le_sub_one_of_lt hfits) hrest false offset
  exact ⟨offset', hnumber.trans (afterWhole_ends hrest false n offset')⟩

/-- The negative of a natural number is read back after its sign if it is not below the least
number of 64 bits. -/
theorem number_neg {n : Nat} (hpos : 0 < n) (hfits : n ≤ Int64.minValue.toInt.natAbs)
    {rest : List UInt8} (hrest : Ends rest) (offset : Nat) :
    ∃ offset', number true ⟨offset, digits n ++ rest⟩ =
      .ok (.int (-(n : Int)), ⟨offset', rest⟩) := by
  have hle : n ≤ maxWord := Nat.le_trans hfits (by decide)
  obtain ⟨offset', hnumber⟩ := number_digits hle hrest true offset
  refine ⟨offset', hnumber.trans ((afterWhole_ends hrest true n offset').trans ?_)⟩
  have hwhole : ¬ (n = 0 ∨ Int64.minValue.toInt.natAbs < n) := by
    rintro (hzero | hlt)
    · exact absurd hzero (Nat.ne_of_gt hpos)
    · exact absurd hfits (Nat.not_le.2 hlt)
  rw [if_pos rfl, if_neg hwhole]

/-! ## What is read as a whole number -/

section

variable {negative : Bool} {significand n : Nat} {power : Int} {input after : Input} {x : Scalar}

theorem realOf_real (h : realOf negative significand power input = .ok (x, after)) :
    ∃ r, x = .real r := by
  obtain ⟨r, -, heq⟩ := bind_eq_ok_iff.mp h
  exact ⟨_, (Prod.mk.inj (Except.ok.inj heq)).1.symm⟩

/-- A number with an exponent is not whole. -/
theorem exponent_real (h : exponent negative significand power input = .ok (x, after)) :
    ∃ r, x = .real r := by
  have hzero : ∀ {p : Prop} [Decidable p] {e : Error} {r : Binary64} {next : Input},
      (if p then .error e else .ok (.real r, next)) = Except.ok (x, after) → ∃ r, x = .real r := by
    intro p _ e r next hr
    split at hr
    · cases hr
    · exact ⟨r, (Prod.mk.inj (Except.ok.inj hr)).1.symm⟩
  unfold exponent at h
  dsimp only at h
  split at h
  · cases h
  · split at h
    · split at h
      · exact realOf_real h
      · exact hzero h
    · cases h

theorem exponent?_real (h : exponent? negative significand power input = .ok (x, after)) :
    ∃ r, x = .real r := by
  unfold exponent? at h
  split at h
  · exact exponent_real h
  · exact exponent_real h
  · exact realOf_real h

/-- A number with a fraction is not whole. -/
theorem fraction_real (h : fraction negative significand power input = .ok (x, after)) :
    ∃ r, x = .real r := by
  unfold fraction at h
  dsimp only at h
  split at h
  · split at h
    · exact exponent?_real h
    · split at h
      · cases h
      · exact exponent?_real h
  · split at h
    · cases h
    · exact exponent?_real h

/-- A whole part that does not fit makes no whole number. -/
theorem afterLongWhole_real (h : afterLongWhole negative significand input = .ok (x, after)) :
    ∃ r, x = .real r := by
  unfold afterLongWhole at h
  dsimp only at h
  split at h
  · exact fraction_real h
  · exact exponent_real h
  · exact exponent_real h
  · exact realOf_real h

/-- What is read as a number is a number. -/
theorem number_numeric (h : number negative input = .ok (x, after)) :
    (∃ r, x = .real r) ∨ ∃ i, x = .int i := by
  have hwhole : ∀ {significand : Nat} {next : Input},
      afterWhole negative significand next = .ok (x, after) →
      (∃ r, x = .real r) ∨ ∃ i, x = .int i := by
    intro significand next hnext
    unfold afterWhole at hnext
    split at hnext
    · exact .inl (fraction_real hnext)
    · exact .inl (exponent_real hnext)
    · exact .inl (exponent_real hnext)
    · split at hnext
      · split at hnext
        · exact .inl ⟨_, (Prod.mk.inj (Except.ok.inj hnext)).1.symm⟩
        · exact .inr ⟨_, (Prod.mk.inj (Except.ok.inj hnext)).1.symm⟩
      · exact .inr ⟨_, (Prod.mk.inj (Except.ok.inj hnext)).1.symm⟩
  unfold number at h
  split at h
  · cases h
  · dsimp only at h
    split at h
    · split at h
      · cases h
      · exact hwhole h
    · exact hwhole h
  · split at h
    · dsimp only at h
      split at h
      · split at h
        · exact .inl (afterLongWhole_real h)
        · exact hwhole h
      · exact hwhole h
    · cases h

/-- A natural number is a whole part without a sign and with nothing after it. -/
theorem afterWhole_nat (h : afterWhole negative significand input = .ok (.int n, after)) :
    negative = false ∧ significand = n ∧ after = input := by
  unfold afterWhole at h
  split at h
  · obtain ⟨r, hr⟩ := fraction_real h
    cases hr
  · obtain ⟨r, hr⟩ := exponent_real h
    cases hr
  · obtain ⟨r, hr⟩ := exponent_real h
    cases hr
  · split at h
    · split at h
      · cases h
      · rename_i hfits
        have hneg := (Scalar.int.inj (Prod.mk.inj (Except.ok.inj h)).1)
        omega
    · rename_i hplain
      obtain ⟨hint, rfl⟩ := Prod.mk.inj (Except.ok.inj h)
      exact ⟨by simpa using hplain, Int.ofNat.inj (Scalar.int.inj hint), rfl⟩

end

/-- The value of digits, after those of a number. -/
def valueFrom (n : Nat) (ds : List UInt8) : Nat := ds.foldl (fun n d => n * 10 + digitValue d) n

/-- What is collected are digits, and they have the value of the significand. -/
theorem collect_sound (significand taken offset : Nat) (s : List UInt8) :
    ∃ ds, (∀ d ∈ ds, isDigit d = true) ∧
      s = ds ++ (collect significand taken offset s).2.2.rest ∧
      (collect significand taken offset s).1 = valueFrom significand ds ∧
      (significand ≤ maxWord → (collect significand taken offset s).1 ≤ maxWord) := by
  induction s generalizing significand taken offset with
  | nil => exact ⟨[], by simp, rfl, rfl, id⟩
  | cons b rest ih =>
      rw [collect]
      split
      · rename_i hb
        dsimp only
        split
        · exact ⟨[], by simp, rfl, rfl, id⟩
        · rename_i hfits
          obtain ⟨ds, hds, hsplit, hvalue, hmax⟩ :=
            ih (significand * 10 + digitValue b) (taken + 1) (offset + 1)
          refine ⟨b :: ds, List.forall_mem_cons.mpr ⟨hb, hds⟩, ?_, hvalue,
            fun _ => hmax (Nat.le_of_not_lt hfits)⟩
          rw [List.cons_append, ← hsplit]
      · exact ⟨[], by simp, rfl, rfl, id⟩

theorem digit_inj {b d : UInt8} (hb : isDigit b = true) (hd : isDigit d = true)
    (h : digitValue b = digitValue d) : b = d := by
  simp only [isDigit, Bool.and_eq_true, decide_eq_true_eq, UInt8.le_iff_toNat_le] at hb hd
  obtain ⟨hb, -⟩ := hb
  obtain ⟨hd, -⟩ := hd
  have h30 : (0x30 : UInt8).toNat = 0x30 := rfl
  simp only [digitValue] at h
  exact UInt8.toNat_inj.mp (by omega)

/-- Digits that do not begin with a zero are those of their value. -/
theorem digits_valueFrom {ds : List UInt8} (hds : ∀ d ∈ ds, isDigit d = true) (hne : ds ≠ [])
    (hzero : ds.head? ≠ some 0x30) : digits (valueFrom 0 ds) = ds := by
  -- by induction on the digits from the last one, which is the remainder of the value by ten
  induction ds using List.reverseRecOn with
  | nil => exact absurd rfl hne
  | append_singleton ds d ih =>
      have hd : isDigit d = true := hds d (by simp)
      have hten : digitValue d < 10 := by
        simp only [isDigit, Bool.and_eq_true, decide_eq_true_eq, UInt8.le_iff_toNat_le] at hd
        have hle : d.toNat ≤ 0x39 := hd.2
        simp only [digitValue]
        omega
      obtain ⟨b, hb, hdigit, hvalue, -⟩ := exists_digit hten
      obtain rfl := digit_inj hdigit hd hvalue
      have hfold : valueFrom 0 (ds ++ [b]) = valueFrom 0 ds * 10 + digitValue b := by
        rw [valueFrom, List.foldl_append]
        rfl
      cases hcases : ds with
      | nil =>
          subst hcases
          rw [hfold, show valueFrom 0 [] = 0 from rfl, Nat.zero_mul, Nat.zero_add,
            digits_of_lt hten, hb, List.nil_append]
      | cons first rest =>
          have hrest := ih (fun c hc => hds c (List.mem_append_left _ hc)) (by simp [hcases])
            (by simpa [hcases] using hzero)
          rw [← hcases]
          have hpos : valueFrom 0 ds ≠ 0 := by
            intro hnull
            rw [hnull] at hrest
            rw [← hrest] at hzero
            exact hzero rfl
          rw [hfold, digits_of_le (by omega), Nat.mul_comm, Nat.mul_add_div (by decide),
            Nat.mul_add_mod, Nat.div_eq_of_lt hten, Nat.mod_eq_of_lt hten, Nat.add_zero, hrest, hb]

/-- Only the decimal form of a natural number of 64 bits is read as that number. -/
theorem number_sound {negative : Bool} {n : Nat} {input after : Input}
    (h : number negative input = .ok (.int n, after)) :
    negative = false ∧ n < UInt64.size ∧ input.rest = digits n ++ after.rest := by
  unfold number at h
  split at h
  · cases h
  · rename_i rest hrest
    have hzero : afterWhole negative 0 ⟨input.offset + 1, rest⟩ = .ok (.int n, after) := by
      dsimp only at h
      split at h
      · split at h
        · cases h
        · exact h
      · exact h
    obtain ⟨rfl, rfl, rfl⟩ := afterWhole_nat hzero
    exact ⟨rfl, by decide, hrest⟩
  · rename_i b rest hnonzero hrest
    split at h
    · obtain ⟨ds, hds, hsplit, hvalue, hmax⟩ := collect_sound 0 0 input.offset input.rest
      -- all digits have been collected if the number is whole
      have hwhole : afterWhole negative (collect 0 0 input.offset input.rest).1
          (collect 0 0 input.offset input.rest).2.2 = .ok (.int n, after) ∧
          ∀ c, (collect 0 0 input.offset input.rest).2.2.rest.head? = some c →
            isDigit c = false := by
        dsimp only at h
        split at h
        · rename_i c tail htail
          split at h
          · obtain ⟨r, hr⟩ := afterLongWhole_real h
            cases hr
          · refine ⟨h, fun d hd => ?_⟩
            rw [htail] at hd
            obtain rfl := Option.some.inj hd
            simpa using ‹¬ isDigit c = true›
        · rename_i htail
          exact ⟨h, by simp [htail]⟩
      obtain ⟨hafterWhole, hstop⟩ := hwhole
      obtain ⟨rfl, rfl, rfl⟩ := afterWhole_nat hafterWhole
      refine ⟨rfl, Nat.lt_of_le_of_lt (hmax (Nat.zero_le _)) (by decide), ?_⟩
      have hne : ds ≠ [] := by
        rintro rfl
        rw [List.nil_append] at hsplit
        cases (hstop b (by rw [← hsplit, hrest]; rfl)).symm.trans ‹isDigit b = true›
      have hhead : ds.head? ≠ some 0x30 := by
        obtain ⟨d, tail, rfl⟩ := List.exists_cons_of_ne_nil hne
        intro heq
        obtain rfl := Option.some.inj heq
        exact hnonzero (List.cons.inj (hrest.symm.trans hsplit)).1
      rw [hvalue, digits_valueFrom hds hne hhead]
      exact hsplit
    · cases h

/-! ## The decimal form of a whole number -/

theorem toString_natCast (n : Nat) : Utf8.bytes (toString (n : Int)).toList = digits n := by
  have hrepr : toString (n : Int) = Nat.repr n := rfl
  rw [hrepr, Nat.toList_repr]
  rfl

theorem toString_negSucc (n : Nat) :
    Utf8.bytes (toString (Int.negSucc n)).toList = 0x2D :: digits (n + 1) := by
  have hrepr : toString (Int.negSucc n) = "-" ++ Nat.repr (n + 1) := rfl
  rw [hrepr, String.toList_append, Nat.toList_repr, Utf8.bytes_append]
  rfl

end GaleraProxy.Json
