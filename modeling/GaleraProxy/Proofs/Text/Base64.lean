import GaleraProxy.Proofs.Text.Trimming
import GaleraProxy.Text.Base64
import Mathlib.Algebra.Group.Nat.Defs

/-!
# What a text in base64 says

A character of the alphabet stands for six bits, and every eight bits in a row are a byte.
`decodeLoose_eq_some_iff` says that a text without regard to its padding is read as exactly those
bytes. Three bytes are four stretches of six bits: `Encodes text bytes` says that a text is the
standard encoding of bytes, of whose padding any part may be missing, and `Encodes.decodeLoose` that
such a text is read as those bytes.
-/

namespace GaleraProxy.Base64

/-! ## Bits -/

/-- The last bits of a number, the most significant one first. -/
def bitsOf : Nat → Nat → List Bool
  | 0, _ => []
  | width + 1, n => n.testBit width :: bitsOf width n

/-- The bits of a byte. -/
def byteBits (b : UInt8) : List Bool := bitsOf 8 b.toNat

@[simp] theorem length_bitsOf (width n : Nat) : (bitsOf width n).length = width := by
  induction width with
  | zero => rfl
  | succ width ih => rw [bitsOf, List.length_cons, ih]

/-- Only the last bits matter. -/
theorem bitsOf_eq_iff {width n m : Nat} :
    bitsOf width n = bitsOf width m ↔ ∀ i < width, n.testBit i = m.testBit i := by
  induction width with
  | zero => simp [bitsOf]
  | succ width ih =>
      simp only [bitsOf, List.cons.injEq, ih]
      constructor
      · rintro ⟨hlast, hothers⟩ i hi
        rcases Nat.lt_succ_iff_lt_or_eq.mp hi with hlt | rfl
        · exact hothers i hlt
        · exact hlast
      · intro h
        exact ⟨h width (Nat.lt_succ_self width), fun i hi => h i (Nat.lt_succ_of_lt hi)⟩

/-- The bits of a number followed by those of another one. -/
theorem bitsOf_add {width n m : Nat} (more : Nat) (hm : m < 2 ^ width) :
    bitsOf (more + width) (n * 2 ^ width + m) = bitsOf more n ++ bitsOf width m := by
  induction more with
  | zero =>
      rw [Nat.zero_add, bitsOf, List.nil_append, bitsOf_eq_iff]
      intro i hi
      rw [Nat.mul_comm, Nat.testBit_two_pow_mul_add n hm, if_pos hi]
  | succ more ih =>
      have hbit : (n * 2 ^ width + m).testBit (more + width) = n.testBit more := by
        rw [Nat.mul_comm, Nat.testBit_two_pow_mul_add n hm, if_neg (by omega), Nat.add_sub_cancel]
      rw [Nat.succ_add, bitsOf, ih, hbit]
      rfl

/-- A number that fits is known by its bits. -/
theorem bitsOf_inj {width n m : Nat} (hn : n < 2 ^ width) (hm : m < 2 ^ width)
    (h : bitsOf width n = bitsOf width m) : n = m := by
  apply Nat.eq_of_testBit_eq
  intro i
  rcases Nat.lt_or_ge i width with hlt | hge
  · exact bitsOf_eq_iff.mp h i hlt
  · have hpow : 2 ^ width ≤ 2 ^ i := Nat.pow_le_pow_right (by decide) hge
    rw [Nat.testBit_lt_two_pow (Nat.lt_of_lt_of_le hn hpow),
      Nat.testBit_lt_two_pow (Nat.lt_of_lt_of_le hm hpow)]

theorem byteBits_inj {a b : UInt8} (h : byteBits a = byteBits b) : a = b :=
  UInt8.toNat_inj.mp (bitsOf_inj a.toNat_lt b.toNat_lt h)

/-! ## The alphabet -/

/-- The characters of the standard alphabet in the order of their values. -/
def alphabet : List UInt8 :=
  "ABCDEFGHIJKLMNOPQRSTUVWXYZabcdefghijklmnopqrstuvwxyz0123456789+/".toList.map
    fun c => UInt8.ofNat c.toNat

/-- The value of a character is its place in the alphabet. -/
theorem value_eq_some_iff {b : UInt8} {v : Nat} : value? b = some v ↔ alphabet[v]? = some b := by
  constructor
  · have hall : ∀ n < 256, (value? (UInt8.ofNat n)).all
        (fun v => alphabet[v]? == some (UInt8.ofNat n)) = true := by decide +kernel
    intro h
    have hb := hall b.toNat b.toNat_lt
    rw [UInt8.ofNat_toNat, h] at hb
    exact eq_of_beq hb
  · have hall : ∀ v < 64, alphabet[v]?.all (fun b => value? b == some v) = true := by
      decide +kernel
    intro h
    have hlt : v < 64 := (List.getElem?_eq_some_iff.mp h).1
    have hv := hall v hlt
    rw [h] at hv
    exact eq_of_beq hv

theorem value_lt {b : UInt8} {v : Nat} (h : value? b = some v) : v < 64 :=
  (List.getElem?_eq_some_iff.mp (value_eq_some_iff.mp h)).1

/-! ## Reading -/

/-- Characters of the alphabet stand for these values. -/
def Stand (letters : List UInt8) (values : List Nat) : Prop :=
  values.map (fun v => alphabet[v]?) = letters.map some

/-- Bits are those of bytes, apart from less than a byte at the end. -/
def Fill (stretch : List Bool) (bytes : List UInt8) : Prop :=
  ∃ rest, stretch = bytes.flatMap byteBits ++ rest ∧ rest.length < 8

/-- A text in base64 without regard to its padding: the bits for which its characters stand fill
the bytes. -/
def Spells (text bytes : List UInt8) : Prop :=
  ∃ letters padding values, text = letters ++ List.replicate padding pad ∧ Stand letters values ∧
    Fill (values.flatMap (bitsOf 6)) bytes

theorem stand_nil_iff {values : List Nat} : Stand [] values ↔ values = [] := by
  simp [Stand]

theorem stand_cons_iff {c : UInt8} {rest : List UInt8} {values : List Nat} :
    Stand (c :: rest) values ↔
      ∃ v others, values = v :: others ∧ value? c = some v ∧ Stand rest others := by
  cases values with
  | nil => simp [Stand]
  | cons v others =>
      simp only [Stand, List.map_cons, List.cons.injEq, value_eq_some_iff]
      constructor
      · rintro ⟨hv, hothers⟩
        exact ⟨v, others, ⟨rfl, rfl⟩, hv, hothers⟩
      · rintro ⟨v', others', ⟨rfl, rfl⟩, hv, hothers⟩
        exact ⟨hv, hothers⟩

/-- Less than eight bits fill no byte. -/
theorem fill_iff_of_short {stretch : List Bool} {bytes : List UInt8} (h : stretch.length < 8) :
    Fill stretch bytes ↔ bytes = [] := by
  constructor
  · rintro ⟨rest, rfl, -⟩
    cases bytes with
    | nil => rfl
    | cons b others =>
        have hlength : (byteBits b).length = 8 := length_bitsOf 8 b.toNat
        rw [List.flatMap_cons, List.append_assoc, List.length_append, hlength] at h
        omega
  · rintro rfl
    exact ⟨stretch, rfl, h⟩

/-- The first eight bits are those of the first byte. -/
theorem fill_byte_iff {b : UInt8} {stretch : List Bool} {bytes : List UInt8} :
    Fill (byteBits b ++ stretch) bytes ↔ ∃ others, bytes = b :: others ∧ Fill stretch others := by
  constructor
  · rintro ⟨rest, heq, hshort⟩
    cases bytes with
    | nil =>
        have hlength := congrArg List.length heq
        rw [List.length_append, byteBits, length_bitsOf, List.flatMap_nil,
          List.nil_append] at hlength
        omega
    | cons a others =>
        rw [List.flatMap_cons, List.append_assoc] at heq
        obtain ⟨hbyte, hothers⟩ := List.append_inj heq (by simp [byteBits])
        exact ⟨others, by rw [byteBits_inj hbyte], rest, hothers, hshort⟩
  · rintro ⟨others, rfl, rest, rfl, hshort⟩
    exact ⟨rest, by rw [List.flatMap_cons, List.append_assoc], hshort⟩

/-- Bits that do not fill a byte, with no more than they are. -/
def Pending.Fits (p : Pending) : Prop := p.bits < 8 ∧ p.value < 2 ^ p.bits

instance (p : Pending) : Decidable p.Fits := inferInstanceAs (Decidable (_ ∧ _))

/-- Six more bits fill a byte or leave all bits pending. -/
theorem Pending.Fits.push {p : Pending} (h : p.Fits) {v : Nat} (hv : v < 64) :
    (∃ q : Pending, p.push v = (q, none) ∧ q.Fits ∧
        bitsOf q.bits q.value = bitsOf p.bits p.value ++ bitsOf 6 v) ∨
      ∃ (q : Pending) (b : UInt8), p.push v = (q, some b) ∧ q.Fits ∧
        byteBits b ++ bitsOf q.bits q.value = bitsOf p.bits p.value ++ bitsOf 6 v := by
  obtain ⟨hbits, hvalue⟩ := h
  have hall : bitsOf (p.bits + 6) (p.value * 64 + v) = bitsOf p.bits p.value ++ bitsOf 6 v :=
    bitsOf_add p.bits hv
  have hlt : p.value * 64 + v < 2 ^ (p.bits + 6) := by
    rw [Nat.pow_add]
    omega
  rw [← hall]
  by_cases hfull : 8 ≤ p.bits + 6
  · obtain ⟨k, hk⟩ : ∃ k, p.bits + 6 = 8 + k := ⟨p.bits + 6 - 8, by omega⟩
    have hpush : p.push v = (⟨k, (p.value * 64 + v) % 2 ^ k⟩,
        some (UInt8.ofNat ((p.value * 64 + v) / 2 ^ k))) := by
      simp [Pending.push, hk]
    rw [hk] at hlt ⊢
    have hbyte : (p.value * 64 + v) / 2 ^ k < 256 := by
      rw [Nat.pow_add, Nat.mul_comm (2 ^ 8)] at hlt
      exact Nat.div_lt_of_lt_mul hlt
    have hleft : (p.value * 64 + v) % 2 ^ k < 2 ^ k := Nat.mod_lt _ (Nat.two_pow_pos k)
    refine .inr ⟨_, _, hpush, ⟨?_, hleft⟩, ?_⟩
    · show k < 8
      omega
    · rw [byteBits, UInt8.toNat_ofNat', Nat.mod_eq_of_lt hbyte, ← bitsOf_add 8 hleft,
        Nat.div_add_mod']
  · have hpush : p.push v = (⟨p.bits + 6, p.value * 64 + v⟩, none) := by
      simp [Pending.push, hfull]
    exact .inl ⟨_, hpush, ⟨Nat.lt_of_not_le hfull, hlt⟩, rfl⟩

/-- Characters are read, after pending bits, as the bytes that their bits fill. -/
theorem decodeFrom_eq_some_iff {p : Pending} (hfits : p.Fits) {letters bytes : List UInt8} :
    decodeFrom? p letters = some bytes ↔
      ∃ values, Stand letters values ∧
        Fill (bitsOf p.bits p.value ++ values.flatMap (bitsOf 6)) bytes := by
  induction letters generalizing p bytes with
  | nil =>
      have hshort : (bitsOf p.bits p.value).length < 8 := by
        rw [length_bitsOf]
        exact hfits.1
      simp only [decodeFrom?, stand_nil_iff, Option.some.injEq, exists_eq_left, List.flatMap_nil,
        List.append_nil, fill_iff_of_short hshort]
      exact eq_comm
  | cons c rest ih =>
      simp only [stand_cons_iff]
      cases hvalue : value? c with
      | none => simp [decodeFrom?, hvalue]
      | some v =>
          rcases hfits.push (value_lt hvalue) with ⟨q, hpush, hq, hall⟩ | ⟨q, b, hpush, hq, hall⟩
          · have hread : decodeFrom? p (c :: rest) = decodeFrom? q rest := by
              simp only [decodeFrom?, hvalue, hpush]
            rw [hread, ih hq, hall]
            constructor
            · rintro ⟨others, hstand, hfill⟩
              refine ⟨v :: others, ⟨v, others, rfl, rfl, hstand⟩, ?_⟩
              rwa [List.flatMap_cons, ← List.append_assoc]
            · rintro ⟨values, ⟨w, others, rfl, hw, hstand⟩, hfill⟩
              obtain rfl := Option.some.inj hw
              refine ⟨others, hstand, ?_⟩
              rwa [List.flatMap_cons, ← List.append_assoc] at hfill
          · have hread : decodeFrom? p (c :: rest) = (decodeFrom? q rest).map (b :: ·) := by
              simp only [decodeFrom?, hvalue, hpush]
            simp only [hread, Option.map_eq_some_iff, ih hq]
            constructor
            · rintro ⟨more, ⟨others, hstand, hfill⟩, rfl⟩
              refine ⟨v :: others, ⟨v, others, rfl, rfl, hstand⟩, ?_⟩
              rw [List.flatMap_cons, ← List.append_assoc, ← hall, List.append_assoc]
              exact fill_byte_iff.mpr ⟨more, rfl, hfill⟩
            · rintro ⟨values, ⟨w, others, rfl, hw, hstand⟩, hfill⟩
              obtain rfl := Option.some.inj hw
              rw [List.flatMap_cons, ← List.append_assoc, ← hall, List.append_assoc] at hfill
              obtain ⟨more, rfl, hmore⟩ := fill_byte_iff.mp hfill
              exact ⟨more, ⟨others, hstand, hmore⟩, rfl⟩

/-! ## Padding -/

/-- Characters that stand for values are those of the alphabet. -/
theorem Stand.mem_alphabet {letters : List UInt8} {values : List Nat} (h : Stand letters values) :
    ∀ c ∈ letters, c ∈ alphabet := by
  intro c hc
  have hmem : some c ∈ values.map (fun v => alphabet[v]?) := by
    rw [h]
    exact List.mem_map_of_mem hc
  obtain ⟨v, -, hv⟩ := List.mem_map.mp hmem
  exact List.mem_of_getElem? hv

/-- A text is made of the alphabet and of padding. -/
theorem Spells.mem_alphabet {text bytes : List UInt8} (h : Spells text bytes) :
    ∀ c ∈ text, c ∈ alphabet ∨ c = pad := by
  obtain ⟨letters, padding, values, rfl, hstand, -⟩ := h
  intro c hc
  rcases List.mem_append.mp hc with hletter | hpad
  · exact .inl (hstand.mem_alphabet c hletter)
  · exact .inr (List.eq_of_mem_replicate hpad)

/-- A text is read without regard to its padding as the bytes that the bits of its characters fill.
-/
theorem decodeLoose_eq_some_iff {text bytes : List UInt8} :
    decodeLoose? text = some bytes ↔ Spells text bytes := by
  have hnone : Pending.Fits ⟨0, 0⟩ := by decide
  rw [decodeLoose?, decodeFrom_eq_some_iff hnone]
  constructor
  · rintro ⟨values, hstand, hfill⟩
    obtain ⟨tail, htext, htail⟩ := exists_dropEnd (· == pad) text
    have hpadding : tail = List.replicate tail.length pad :=
      List.eq_replicate_iff.mpr ⟨rfl, fun c hc => eq_of_beq (htail c hc)⟩
    exact ⟨dropPadding text, tail.length, values, hpadding ▸ htext, hstand, hfill⟩
  · rintro ⟨letters, padding, values, rfl, hstand, hfill⟩
    have hother : ∀ c ∈ letters, (c == pad) = false := by
      intro c hc
      have hne : pad ∉ alphabet := by decide
      exact beq_eq_false_iff_ne.mpr fun heq => hne (heq ▸ hstand.mem_alphabet c hc)
    have hpadding : ∀ c ∈ List.replicate padding pad, (c == pad) = true := fun c hc =>
      beq_iff_eq.mpr (List.eq_of_mem_replicate hc)
    have hletters : dropPadding (letters ++ List.replicate padding pad) = letters :=
      dropEnd_append hpadding hother
    exact ⟨values, hletters.symm ▸ hstand, hfill⟩

/-! ## Bits across bytes -/

/-- The bits of a number are those of its upper part and those of its lower part. -/
theorem bitsOf_split (more width n : Nat) :
    bitsOf (more + width) n = bitsOf more (n / 2 ^ width) ++ bitsOf width (n % 2 ^ width) := by
  rw [← bitsOf_add more (Nat.mod_lt n (Nat.two_pow_pos width)), Nat.div_add_mod']

/-- The first character of a group takes six bits of the first byte and leaves two. -/
theorem byteBits_six_two (a : UInt8) :
    byteBits a = bitsOf 6 (a.toNat / 4) ++ bitsOf 2 (a.toNat % 4) :=
  bitsOf_split 6 2 a.toNat

/-- The second byte is divided in the middle. -/
theorem byteBits_four_four (b : UInt8) :
    byteBits b = bitsOf 4 (b.toNat / 16) ++ bitsOf 4 (b.toNat % 16) :=
  bitsOf_split 4 4 b.toNat

/-- The last character of a group takes six bits of the third byte. -/
theorem byteBits_two_six (c : UInt8) :
    byteBits c = bitsOf 2 (c.toNat / 64) ++ bitsOf 6 (c.toNat % 64) :=
  bitsOf_split 2 6 c.toNat

/-- Two bits of one byte and four of the next one are those of a character. -/
theorem bitsOf_two_four (n : Nat) (b : UInt8) :
    bitsOf 6 (n * 16 + b.toNat / 16) = bitsOf 2 n ++ bitsOf 4 (b.toNat / 16) := by
  have hlt : b.toNat / 16 < 2 ^ 4 := by
    have := b.toNat_lt
    omega
  exact bitsOf_add 2 hlt

/-- Four bits of one byte and two of the next one are those of a character. -/
theorem bitsOf_four_two (n : Nat) (c : UInt8) :
    bitsOf 6 (n * 4 + c.toNat / 64) = bitsOf 4 n ++ bitsOf 2 (c.toNat / 64) := by
  have hlt : c.toNat / 64 < 2 ^ 2 := by
    have := c.toNat_lt
    omega
  exact bitsOf_add 4 hlt

/-- The values of the characters of a whole group. -/
def groupValues (a b c : UInt8) : List Nat :=
  [a.toNat / 4, a.toNat % 4 * 16 + b.toNat / 16, b.toNat % 16 * 4 + c.toNat / 64, c.toNat % 64]

/-- The characters of a whole group stand for its three bytes. -/
theorem flatMap_groupValues (a b c : UInt8) :
    (groupValues a b c).flatMap (bitsOf 6) = byteBits a ++ (byteBits b ++ byteBits c) := by
  simp only [groupValues, List.flatMap_cons, List.flatMap_nil, List.append_nil]
  rw [bitsOf_two_four, bitsOf_four_two, byteBits_six_two, byteBits_four_four, byteBits_two_six]
  simp only [List.append_assoc]

/-! ## Characters -/

/-- A value that fits in six bits has its character. -/
theorem getElem_alphabet_letter {v : Nat} (h : v < 64) : alphabet[v]? = some (letter v) := by
  have hall : ∀ v < 64, alphabet[v]? = some (letter v) := by decide +kernel
  exact hall v h

theorem stand_letters {values : List Nat} (h : ∀ v ∈ values, v < 64) :
    Stand (values.map letter) values := by
  rw [Stand, List.map_map]
  exact List.map_congr_left fun v hv => getElem_alphabet_letter (h v hv)

theorem groupValues_lt {a b c : UInt8} : ∀ v ∈ groupValues a b c, v < 64 := by
  have ha := a.toNat_lt
  have hb := b.toNat_lt
  have hc := c.toNat_lt
  intro v hv
  simp only [groupValues, List.mem_cons, List.not_mem_nil, or_false] at hv
  omega

/-! ## Encodings -/

/-- Characters whose values fill bytes spell them, with any padding after them. -/
theorem spells_letters {values : List Nat} {bytes : List UInt8} {rest : List Bool} (padding : Nat)
    (hvalues : ∀ v ∈ values, v < 64)
    (hbits : values.flatMap (bitsOf 6) = bytes.flatMap byteBits ++ rest) (hrest : rest.length < 8) :
    Spells (values.map letter ++ List.replicate padding pad) bytes :=
  ⟨values.map letter, padding, values, rfl, stand_letters hvalues, rest, hbits, hrest⟩

/-- A group before a text spells its three bytes before those of the text. -/
theorem Spells.group {text bytes : List UInt8} (a b c : UInt8) (h : Spells text bytes) :
    Spells ((groupValues a b c).map letter ++ text) (a :: b :: c :: bytes) := by
  obtain ⟨letters, padding, values, rfl, hstand, rest, hbits, hrest⟩ := h
  have hgroup : Stand ((groupValues a b c).map letter) (groupValues a b c) :=
    stand_letters groupValues_lt
  refine ⟨(groupValues a b c).map letter ++ letters, padding, groupValues a b c ++ values,
    (List.append_assoc _ _ _).symm, ?_, rest, ?_, hrest⟩
  · rw [Stand] at hgroup hstand ⊢
    rw [List.map_append, List.map_append, hgroup, hstand]
  · rw [List.flatMap_append, flatMap_groupValues, hbits]
    simp only [List.flatMap_cons, List.append_assoc]

/-- A last group of one byte: two characters, the second of which has four bits of no byte. -/
theorem spells_encode_one (a : UInt8) : Spells (encode [a]) [a] := by
  have ha := a.toNat_lt
  have hvalues : ∀ v ∈ [a.toNat / 4, a.toNat % 4 * 16], v < 64 := by
    intro v hv
    simp only [List.mem_cons, List.not_mem_nil, or_false] at hv
    omega
  have hsecond : bitsOf 6 (a.toNat % 4 * 16) = bitsOf 2 (a.toNat % 4) ++ bitsOf 4 0 :=
    bitsOf_add 2 (show 0 < 2 ^ 4 by decide)
  have hbits : [a.toNat / 4, a.toNat % 4 * 16].flatMap (bitsOf 6) =
      [a].flatMap byteBits ++ bitsOf 4 0 := by
    simp only [List.flatMap_cons, List.flatMap_nil, List.append_nil]
    rw [hsecond, byteBits_six_two, List.append_assoc]
  exact spells_letters 2 hvalues hbits (by decide)

/-- A last group of two bytes: three characters, the third of which has two bits of no byte. -/
theorem spells_encode_two (a b : UInt8) : Spells (encode [a, b]) [a, b] := by
  have ha := a.toNat_lt
  have hb := b.toNat_lt
  have hvalues :
      ∀ v ∈ [a.toNat / 4, a.toNat % 4 * 16 + b.toNat / 16, b.toNat % 16 * 4], v < 64 := by
    intro v hv
    simp only [List.mem_cons, List.not_mem_nil, or_false] at hv
    omega
  have hthird : bitsOf 6 (b.toNat % 16 * 4) = bitsOf 4 (b.toNat % 16) ++ bitsOf 2 0 :=
    bitsOf_add 4 (show 0 < 2 ^ 2 by decide)
  have hbits :
      [a.toNat / 4, a.toNat % 4 * 16 + b.toNat / 16, b.toNat % 16 * 4].flatMap (bitsOf 6) =
        [a, b].flatMap byteBits ++ bitsOf 2 0 := by
    simp only [List.flatMap_cons, List.flatMap_nil, List.append_nil]
    rw [bitsOf_two_four, hthird, byteBits_six_two, byteBits_four_four]
    simp only [List.append_assoc]
  exact spells_letters 1 hvalues hbits (by decide)

/-- The standard encoding stands for the bytes. -/
theorem spells_encode (bytes : List UInt8) : Spells (encode bytes) bytes := by
  fun_induction encode bytes with
  | case1 => exact ⟨[], 0, [], rfl, rfl, [], rfl, by decide⟩
  | case2 a => exact spells_encode_one a
  | case3 a b => exact spells_encode_two a b
  | case4 a b c rest ih => exact ih.group a b c

/-- Padding at the end of a text does not matter. -/
theorem dropPadding_append (text : List UInt8) (n : Nat) :
    dropPadding (text ++ List.replicate n pad) = dropPadding text := by
  have hpadding : ∀ b ∈ List.replicate n pad, (b == pad) = true := fun b hb =>
    beq_iff_eq.mpr (List.eq_of_mem_replicate hb)
  rw [dropPadding, List.reverse_append, List.reverse_replicate,
    List.dropWhile_append_of_pos hpadding]
  rfl

/-- A text is the standard encoding of bytes, of whose padding any part may be missing. -/
def Encodes (text bytes : List UInt8) : Prop :=
  ∃ missing, text ++ List.replicate missing pad = encode bytes

/-- The standard encoding is read as the bytes, whether or not it is padded. -/
theorem Encodes.decodeLoose {text bytes : List UInt8} (h : Encodes text bytes) :
    decodeLoose? text = some bytes := by
  obtain ⟨missing, htext⟩ := h
  calc decodeLoose? text
      = decodeLoose? (text ++ List.replicate missing pad) := by
        rw [decodeLoose?, decodeLoose?, dropPadding_append]
    _ = decodeLoose? (encode bytes) := by rw [htext]
    _ = some bytes := decodeLoose_eq_some_iff.mpr (spells_encode bytes)

theorem Encodes.spells {text bytes : List UInt8} (h : Encodes text bytes) : Spells text bytes :=
  decodeLoose_eq_some_iff.mp h.decodeLoose

end GaleraProxy.Base64
