import GaleraProxy.Text.Utf8

/-!
# Reading is the inverse of writing in UTF-8

`Stands` lists the ranges of the bytes of a character: `stands_of_head` and `Stands.head` say that a
character is read exactly where such bytes stand, and `decode_eq_some_iff` that bytes are read as a
text exactly if they are the bytes of that text.
-/

namespace GaleraProxy.Utf8

/-! ## The bytes of a text -/

/-- The bytes of an array from a place on. -/
theorem toList_loop (bytes : ByteArray) (i : Nat) (before : List UInt8) :
    ByteArray.toList.loop bytes i before = before.reverse ++ bytes.data.toList.drop i := by
  fun_induction ByteArray.toList.loop bytes i before with
  | case1 i before hlt ih =>
      have hlt' : i < bytes.data.toList.length := hlt
      have hget : bytes.get! i = bytes.data.toList[i] := by
        rw [ByteArray.get!, getElem!_pos bytes.data i hlt, Array.getElem_toList]
      rw [ih, List.drop_eq_getElem_cons hlt', List.reverse_cons, List.append_assoc, hget]
      rfl
  | case2 i before hle =>
      have hle' : bytes.data.toList.length ≤ i := Nat.le_of_not_lt hle
      rw [List.drop_eq_nil_of_le hle', List.append_nil]

/-- A text is written character by character. -/
theorem encode_eq_flatMap (s : String) : encode s = s.toList.flatMap String.utf8EncodeChar := by
  have hbytes : s.toUTF8 = (s.toList.flatMap String.utf8EncodeChar).toByteArray := by
    rw [String.toUTF8_eq_toByteArray, ← String.utf8Encode_toList, List.utf8Encode]
  rw [encode, ByteArray.toList, toList_loop, hbytes, List.toList_data_toByteArray]
  rfl

/-- The bytes of a character by the size of its code. -/
theorem encode_char_cases (c : Char) :
    (c.toNat < 0x80 ∧ String.utf8EncodeChar c = [UInt8.ofNat c.toNat]) ∨
    (0x80 ≤ c.toNat ∧ c.toNat < 0x800 ∧ String.utf8EncodeChar c =
      [UInt8.ofNat (c.toNat / 64 % 32 + 0xC0), UInt8.ofNat (c.toNat % 64 + 0x80)]) ∨
    (0x800 ≤ c.toNat ∧ c.toNat < 0x10000 ∧ String.utf8EncodeChar c =
      [UInt8.ofNat (c.toNat / 4096 % 16 + 0xE0), UInt8.ofNat (c.toNat / 64 % 64 + 0x80),
        UInt8.ofNat (c.toNat % 64 + 0x80)]) ∨
    (0x10000 ≤ c.toNat ∧ String.utf8EncodeChar c =
      [UInt8.ofNat (c.toNat / 262144 % 8 + 0xF0), UInt8.ofNat (c.toNat / 4096 % 64 + 0x80),
        UInt8.ofNat (c.toNat / 64 % 64 + 0x80), UInt8.ofNat (c.toNat % 64 + 0x80)]) := by
  unfold String.utf8EncodeChar
  simp only
  have hcode : c.val.toNat = c.toNat := rfl
  rw [hcode]
  split
  · exact .inl ⟨by omega, rfl⟩
  · split
    · exact .inr (.inl ⟨by omega, by omega, rfl⟩)
    · split
      · exact .inr (.inr (.inl ⟨by omega, by omega, rfl⟩))
      · exact .inr (.inr (.inr ⟨by omega, rfl⟩))

/-! ## One character -/

theorem toNat_ofNat {n : Nat} (h : n.isValidChar) : (Char.ofNat n).toNat = n := by
  rw [Char.ofNat, dif_pos h]
  rfl

theorem byte_eq {a : UInt8} {x : Nat} (h : x = a.toNat) : UInt8.ofNat x = a := by
  rw [h, UInt8.ofNat_toNat]

/-- A byte that continues a character. -/
def IsTail (b : UInt8) : Prop := 0x80 ≤ b.toNat ∧ b.toNat ≤ 0xBF

/-- The bytes of a character by their ranges. The bounds of the second one keep out what could be
written shorter and what is no character. -/
inductive Stands : List UInt8 → Char → Prop where
  | one {a : UInt8} (ha : a.toNat < 0x80) : Stands [a] (Char.ofNat a.toNat)
  | two {a b : UInt8} (ha : 0xC2 ≤ a.toNat ∧ a.toNat ≤ 0xDF) (hb : IsTail b) :
      Stands [a, b] (Char.ofNat (a.toNat % 32 * 64 + payload b))
  | three {a b c : UInt8} (ha : 0xE0 ≤ a.toNat ∧ a.toNat ≤ 0xEF) (hb : IsTail b)
      (hlow : a.toNat = 0xE0 → 0xA0 ≤ b.toNat) (hhigh : a.toNat = 0xED → b.toNat ≤ 0x9F)
      (hc : IsTail c) :
      Stands [a, b, c] (Char.ofNat ((a.toNat % 16 * 64 + payload b) * 64 + payload c))
  | four {a b c d : UInt8} (ha : 0xF0 ≤ a.toNat ∧ a.toNat ≤ 0xF4) (hb : IsTail b)
      (hlow : a.toNat = 0xF0 → 0x90 ≤ b.toNat) (hhigh : a.toNat = 0xF4 → b.toNat ≤ 0x8F)
      (hc : IsTail c) (hd : IsTail d) :
      Stands [a, b, c, d]
        (Char.ofNat (((a.toNat % 8 * 64 + payload b) * 64 + payload c) * 64 + payload d))

/-- Bytes in these ranges are those of the character. -/
theorem Stands.encode {bytes : List UInt8} {c : Char} (h : Stands bytes c) :
    String.utf8EncodeChar c = bytes := by
  cases h with
  | @one a ha =>
      have hcode := toNat_ofNat (n := a.toNat) (.inl (by omega))
      rcases encode_char_cases (Char.ofNat a.toNat) with ⟨-, heq⟩ | ⟨h, -⟩ | ⟨h, -⟩ | ⟨h, -⟩
      · rw [heq, hcode, UInt8.ofNat_toNat]
      · omega
      · omega
      · omega
  | @two a b ha hb =>
      unfold IsTail at hb
      unfold payload
      have hcode := toNat_ofNat (n := a.toNat % 32 * 64 + b.toNat % 64) (.inl (by omega))
      rcases encode_char_cases (Char.ofNat (a.toNat % 32 * 64 + b.toNat % 64)) with
        ⟨h, -⟩ | ⟨-, -, heq⟩ | ⟨h, -⟩ | ⟨h, -⟩
      · omega
      · rw [heq, hcode, byte_eq (a := a) (by omega), byte_eq (a := b) (by omega)]
      · omega
      · omega
  | @three a b c ha hb hlow hhigh hc =>
      unfold IsTail at hb hc
      unfold payload
      have hcode := toNat_ofNat (n := (a.toNat % 16 * 64 + b.toNat % 64) * 64 + c.toNat % 64)
        (by unfold Nat.isValidChar; omega)
      rcases encode_char_cases
        (Char.ofNat ((a.toNat % 16 * 64 + b.toNat % 64) * 64 + c.toNat % 64)) with
        ⟨h, -⟩ | ⟨-, h, -⟩ | ⟨-, -, heq⟩ | ⟨h, -⟩
      · omega
      · omega
      · rw [heq, hcode, byte_eq (a := a) (by omega), byte_eq (a := b) (by omega),
          byte_eq (a := c) (by omega)]
      · omega
  | @four a b c d ha hb hlow hhigh hc hd =>
      unfold IsTail at hb hc hd
      unfold payload
      have hcode := toNat_ofNat
        (n := ((a.toNat % 8 * 64 + b.toNat % 64) * 64 + c.toNat % 64) * 64 + d.toNat % 64)
        (by unfold Nat.isValidChar; omega)
      rcases encode_char_cases (Char.ofNat
        (((a.toNat % 8 * 64 + b.toNat % 64) * 64 + c.toNat % 64) * 64 + d.toNat % 64)) with
        ⟨h, -⟩ | ⟨-, h, -⟩ | ⟨-, h, -⟩ | ⟨-, heq⟩
      · omega
      · omega
      · omega
      · rw [heq, hcode, byte_eq (a := a) (by omega), byte_eq (a := b) (by omega),
          byte_eq (a := c) (by omega), byte_eq (a := d) (by omega)]

theorem toNat_byte {x : Nat} (h : x < 256) : (UInt8.ofNat x).toNat = x := by
  rw [UInt8.toNat_ofNat', Nat.mod_eq_of_lt h]

/-- A character that is made of its code. -/
theorem Stands.of_code {bytes : List UInt8} {c : Char} {n : Nat} (h : Stands bytes (Char.ofNat n))
    (hn : n = c.toNat) : Stands bytes c := by
  rwa [hn, Char.ofNat_toNat] at h

/-- Every character has its bytes in these ranges. -/
theorem stands_encode (c : Char) : Stands (String.utf8EncodeChar c) c := by
  have hvalid : c.toNat < 0xD800 ∨ 0xDFFF < c.toNat ∧ c.toNat < 0x110000 := c.valid
  rcases encode_char_cases c with ⟨h, heq⟩ | ⟨h, h', heq⟩ | ⟨h, h', heq⟩ | ⟨h, heq⟩
  · have ha := toNat_byte (x := c.toNat) (by omega)
    rw [heq]
    exact (Stands.one (by omega)).of_code ha
  · have ha := toNat_byte (x := c.toNat / 64 % 32 + 0xC0) (by omega)
    have hb := toNat_byte (x := c.toNat % 64 + 0x80) (by omega)
    rw [heq]
    refine (Stands.two (by omega) (by unfold IsTail; omega)).of_code ?_
    rw [payload, ha, hb]
    omega
  · have ha := toNat_byte (x := c.toNat / 4096 % 16 + 0xE0) (by omega)
    have hb := toNat_byte (x := c.toNat / 64 % 64 + 0x80) (by omega)
    have hc := toNat_byte (x := c.toNat % 64 + 0x80) (by omega)
    rw [heq]
    refine (Stands.three (by omega) (by unfold IsTail; omega) (by omega) (by omega)
      (by unfold IsTail; omega)).of_code ?_
    rw [payload, payload, ha, hb, hc]
    omega
  · have ha := toNat_byte (x := c.toNat / 262144 % 8 + 0xF0) (by omega)
    have hb := toNat_byte (x := c.toNat / 4096 % 64 + 0x80) (by omega)
    have hc := toNat_byte (x := c.toNat / 64 % 64 + 0x80) (by omega)
    have hd := toNat_byte (x := c.toNat % 64 + 0x80) (by omega)
    rw [heq]
    refine (Stands.four (by omega) (by unfold IsTail; omega) (by omega) (by omega)
      (by unfold IsTail; omega) (by unfold IsTail; omega)).of_code ?_
    rw [payload, payload, payload, ha, hb, hc, hd]
    omega

/-! ## The front of a stretch of bytes -/

theorem isContinuation_iff {b : UInt8} : isContinuation b = true ↔ IsTail b := by
  simp [isContinuation, IsTail, UInt8.le_iff_toNat_le]

/-- The least second byte after a first byte. -/
theorem least_second {a x y low : UInt8} (h : (if a = x then y else 0x80) = low)
    (hy : 0x80 ≤ y.toNat) :
    0x80 ≤ low.toNat ∧ (a.toNat = x.toNat → y.toNat ≤ low.toNat) := by
  split at h
  · subst low
    exact ⟨hy, fun _ => Nat.le_refl _⟩
  · rename_i hne
    subst low
    exact ⟨Nat.le_refl _, fun heq => absurd (UInt8.toNat_inj.mp heq) hne⟩

/-- The greatest second byte after a first byte. -/
theorem greatest_second {a x y high : UInt8} (h : (if a = x then y else 0xBF) = high)
    (hy : y.toNat ≤ 0xBF) :
    high.toNat ≤ 0xBF ∧ (a.toNat = x.toNat → high.toNat ≤ y.toNat) := by
  split at h
  · subst high
    exact ⟨hy, fun _ => Nat.le_refl _⟩
  · rename_i hne
    subst high
    exact ⟨Nat.le_refl _, fun heq => absurd (UInt8.toNat_inj.mp heq) hne⟩

/-- Where a character is read, its bytes stand. -/
theorem stands_of_head {a : UInt8} {rest : List UInt8} {c : Char} {n : Nat}
    (h : head a rest = .char c n) :
    ∃ others tail, rest = others ++ tail ∧ n = others.length + 1 ∧ Stands (a :: others) c := by
  unfold head at h
  simp only at h
  -- the bounds are named, so that the cases follow the bytes and not the bounds
  generalize hlow₃ : (if a = 0xE0 then (0xA0 : UInt8) else 0x80) = low₃ at h
  generalize hhigh₃ : (if a = 0xED then (0x9F : UInt8) else 0xBF) = high₃ at h
  generalize hlow₄ : (if a = 0xF0 then (0x90 : UInt8) else 0x80) = low₄ at h
  generalize hhigh₄ : (if a = 0xF4 then (0x8F : UInt8) else 0xBF) = high₄ at h
  simp only [UInt8.lt_iff_toNat_lt, UInt8.le_iff_toNat_le, Bool.and_eq_true, decide_eq_true_eq] at h
  split at h
  case isTrue ha =>
    obtain ⟨rfl, rfl⟩ := Head.char.inj h
    exact ⟨[], rest, rfl, rfl, .one ha⟩
  split at h
  case isTrue ha =>
    split at h
    case h_2 => cases h
    case h_1 b tail =>
      split at h
      case isFalse => cases h
      case isTrue hb =>
        obtain ⟨rfl, rfl⟩ := Head.char.inj h
        exact ⟨[b], tail, rfl, rfl, .two ha (isContinuation_iff.mp hb)⟩
  split at h
  case isTrue ha =>
    split at h
    case h_2 => cases h
    case h_1 b rest =>
      split at h
      case isFalse => cases h
      case isTrue hb =>
        split at h
        case h_2 => cases h
        case h_1 c' tail =>
          split at h
          case isFalse => cases h
          case isTrue hc =>
            obtain ⟨rfl, rfl⟩ := Head.char.inj h
            obtain ⟨hlow, hlow'⟩ := least_second hlow₃ (by decide)
            obtain ⟨hhigh, hhigh'⟩ := greatest_second hhigh₃ (by decide)
            exact ⟨[b, c'], tail, rfl, rfl, .three ha ⟨by omega, by omega⟩
              (fun heq => Nat.le_trans (hlow' heq) hb.1)
              (fun heq => Nat.le_trans hb.2 (hhigh' heq)) (isContinuation_iff.mp hc)⟩
  split at h
  case isFalse => cases h
  case isTrue ha =>
    split at h
    case h_2 => cases h
    case h_1 b rest =>
      split at h
      case isFalse => cases h
      case isTrue hb =>
        split at h
        case h_2 => cases h
        case h_1 c' rest =>
          split at h
          case isFalse => cases h
          case isTrue hc =>
            split at h
            case h_2 => cases h
            case h_1 d tail =>
              split at h
              case isFalse => cases h
              case isTrue hd =>
                obtain ⟨rfl, rfl⟩ := Head.char.inj h
                obtain ⟨hlow, hlow'⟩ := least_second hlow₄ (by decide)
                obtain ⟨hhigh, hhigh'⟩ := greatest_second hhigh₄ (by decide)
                exact ⟨[b, c', d], tail, rfl, rfl, .four ha ⟨by omega, by omega⟩
                  (fun heq => Nat.le_trans (hlow' heq) hb.1)
                  (fun heq => Nat.le_trans hb.2 (hhigh' heq)) (isContinuation_iff.mp hc)
                  (isContinuation_iff.mp hd)⟩

theorem least_second_le {a x y b : UInt8} (hb : 0x80 ≤ b.toNat)
    (hlow : a.toNat = x.toNat → y.toNat ≤ b.toNat) : (if a = x then y else 0x80) ≤ b := by
  split
  · rename_i heq
    exact hlow (congrArg UInt8.toNat heq)
  · exact hb

theorem le_greatest_second {a x y b : UInt8} (hb : b.toNat ≤ 0xBF)
    (hhigh : a.toNat = x.toNat → b.toNat ≤ y.toNat) : b ≤ (if a = x then y else 0xBF) := by
  split
  · rename_i heq
    exact hhigh (congrArg UInt8.toNat heq)
  · exact hb

/-- Where the bytes of a character stand, it is read. -/
theorem Stands.head {a : UInt8} {others : List UInt8} {c : Char} (h : Stands (a :: others) c)
    (tail : List UInt8) : Utf8.head a (others ++ tail) = .char c (others.length + 1) := by
  unfold Utf8.head
  cases h with
  | one ha =>
      have hone : a < 0x80 := ha
      simp [hone]
  | @two _ b ha hb =>
      have hone : ¬ a < 0x80 := Nat.not_lt.mpr (Nat.le_trans (by decide) ha.1)
      have htwo : 0xC2 ≤ a ∧ a ≤ 0xDF := ha
      simp [hone, htwo, isContinuation_iff.mpr hb]
  | @three _ b c ha hb hlow hhigh hc =>
      have hone : ¬ a < 0x80 := Nat.not_lt.mpr (Nat.le_trans (by decide) ha.1)
      have htwo : ¬ a ≤ 0xDF := Nat.not_le.mpr (Nat.lt_of_lt_of_le (by decide) ha.1)
      have hthree : 0xE0 ≤ a ∧ a ≤ 0xEF := ha
      have hleast := least_second_le (x := 0xE0) (y := 0xA0) hb.1 hlow
      have hgreatest := le_greatest_second (x := 0xED) (y := 0x9F) hb.2 hhigh
      simp [hone, htwo, hthree, hleast, hgreatest, isContinuation_iff.mpr hc]
  | @four _ b c d ha hb hlow hhigh hc hd =>
      have hone : ¬ a < 0x80 := Nat.not_lt.mpr (Nat.le_trans (by decide) ha.1)
      have htwo : ¬ a ≤ 0xDF := Nat.not_le.mpr (Nat.lt_of_lt_of_le (by decide) ha.1)
      have hthree : ¬ a ≤ 0xEF := Nat.not_le.mpr (Nat.lt_of_lt_of_le (by decide) ha.1)
      have hfour : 0xF0 ≤ a ∧ a ≤ 0xF4 := ha
      have hleast := least_second_le (x := 0xF0) (y := 0x90) hb.1 hlow
      have hgreatest := le_greatest_second (x := 0xF4) (y := 0x8F) hb.2 hhigh
      simp [hone, htwo, hthree, hfour, hleast, hgreatest, isContinuation_iff.mpr hc,
        isContinuation_iff.mpr hd]

/-! ## Texts -/

/-- The bytes of a character that has been read are passed over. -/
theorem decodeFrom_skip (skipped rest : List UInt8) :
    decodeFrom? skipped.length (skipped ++ rest) = decodeFrom? 0 rest := by
  induction skipped with
  | nil => rfl
  | cons b others ih => exact ih

/-- Bytes that begin with those of a character are read as this character and the rest. -/
theorem decodeFrom_char (c : Char) (rest : List UInt8) :
    decodeFrom? 0 (String.utf8EncodeChar c ++ rest) = (decodeFrom? 0 rest).map (c :: ·) := by
  have hstands := stands_encode c
  cases hbytes : String.utf8EncodeChar c with
  | nil => exact absurd hbytes String.utf8EncodeChar_ne_nil
  | cons a others =>
      rw [hbytes] at hstands
      simp only [List.cons_append, decodeFrom?, hstands.head rest, Nat.add_sub_cancel,
        decodeFrom_skip]

/-- What is read are characters whose bytes stand there. -/
theorem decodeFrom_eq_some_iff {bytes : List UInt8} {text : List Char} :
    decodeFrom? 0 bytes = some text ↔ bytes = text.flatMap String.utf8EncodeChar := by
  constructor
  · intro h
    -- a character may have several bytes, so the induction is on the number of those that are left
    induction hlength : bytes.length using Nat.strongRecOn generalizing bytes text with
    | _ n ih =>
        cases bytes with
        | nil =>
            obtain rfl := Option.some.inj h
            rfl
        | cons a rest =>
            simp only [decodeFrom?] at h
            split at h
            case h_2 => cases h
            case h_1 c k hhead =>
              obtain ⟨others, tail, rfl, rfl, hstands⟩ := stands_of_head hhead
              rw [Nat.add_sub_cancel, decodeFrom_skip] at h
              obtain ⟨more, hmore, rfl⟩ := Option.map_eq_some_iff.mp h
              have hlt : tail.length < n := by
                rw [← hlength, List.length_cons, List.length_append]
                omega
              rw [List.flatMap_cons, hstands.encode, ← ih tail.length hlt hmore rfl]
              rfl
  · rintro rfl
    induction text with
    | nil => rfl
    | cons c rest ih => rw [List.flatMap_cons, decodeFrom_char, ih, Option.map_some]

/-- Bytes are read as a text exactly if they are its bytes. -/
theorem decode_eq_some_iff {bytes : List UInt8} {text : String} :
    decode? bytes = some text ↔ bytes = encode text := by
  rw [decode?, Option.map_eq_some_iff, encode_eq_flatMap]
  constructor
  · rintro ⟨chars, hchars, rfl⟩
    rw [String.toList_ofList]
    exact decodeFrom_eq_some_iff.mp hchars
  · rintro h
    exact ⟨text.toList, decodeFrom_eq_some_iff.mpr h, String.ofList_toList⟩

end GaleraProxy.Utf8
