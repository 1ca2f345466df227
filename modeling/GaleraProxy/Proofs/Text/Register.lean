import GaleraProxy.Proofs.Text.Base64
import GaleraProxy.Proofs.Text.Utf8
import Mathlib.Algebra.Group.Nat.Even
import Mathlib.Data.List.Basic

/-!
# Decoding base64 in a register of 32 bits

`Pending` keeps the bits that fill no byte yet as a number without bound. A `Register` keeps them in
a word of 32 bits: a shift loses what it moves out of the word, and what is cut out of the word is
a byte only if it is small enough. `Register.Fits` is what every register satisfies in which
characters have been taken in, and `decodeFrom_append` says that such a register is where the
decoding of the text is after these characters. `text_decoded_exactly` says which text is decoded
from an encoded one, and that a register is large enough.
-/

namespace GaleraProxy.Base64

/-! ## Characters and their places in the alphabet -/

/-- A character of the alphabet has its place as its value. -/
theorem value_of_mem {c : UInt8} (h : c ∈ alphabet) : value? c = some (alphabet.idxOf c) :=
  value_eq_some_iff.mpr (List.getElem?_idxOf h)

theorem value_eq_none_iff {c : UInt8} : value? c = none ↔ c ∉ alphabet := by
  constructor
  · intro hnone hmem
    rw [value_of_mem hmem] at hnone
    cases hnone
  · intro hnot
    cases hvalue : value? c with
    | none => rfl
    | some v => exact absurd (List.mem_of_getElem? (value_eq_some_iff.mp hvalue)) hnot

/-- Characters stand for values if they are of the alphabet and the values are their places. -/
theorem stand_iff {letters : List UInt8} {values : List Nat} :
    Stand letters values ↔
      (∀ c ∈ letters, c ∈ alphabet) ∧ values = letters.map fun c => alphabet.idxOf c := by
  induction letters generalizing values with
  | nil => simp [stand_nil_iff]
  | cons c rest ih =>
      rw [stand_cons_iff, List.forall_mem_cons, List.map_cons]
      constructor
      · rintro ⟨v, others, rfl, hvalue, hothers⟩
        obtain ⟨hrest, rfl⟩ := ih.mp hothers
        have hc : c ∈ alphabet := List.mem_of_getElem? (value_eq_some_iff.mp hvalue)
        rw [value_of_mem hc] at hvalue
        exact ⟨⟨hc, hrest⟩, by rw [Option.some.inj hvalue]⟩
      · rintro ⟨⟨hc, hrest⟩, rfl⟩
        exact ⟨_, _, rfl, value_of_mem hc, ih.mpr ⟨hrest, rfl⟩⟩

/-- The bits for which the characters of a text stand. -/
def stretch (letters : List UInt8) : List Bool :=
  letters.flatMap fun c => bitsOf 6 (alphabet.idxOf c)

/-- A text is read as the bytes that its bits fill, if it is made of the alphabet. -/
theorem decodeFrom_start_eq_some_iff {letters bytes : List UInt8} :
    decodeFrom? ⟨0, 0⟩ letters = some bytes ↔
      (∀ c ∈ letters, c ∈ alphabet) ∧ Fill (stretch letters) bytes := by
  have hnone : Pending.Fits ⟨0, 0⟩ := by decide
  simp only [decodeFrom_eq_some_iff hnone, stand_iff]
  constructor
  · rintro ⟨values, ⟨hletters, rfl⟩, hfill⟩
    rw [List.flatMap_map] at hfill
    exact ⟨hletters, hfill⟩
  · rintro ⟨hletters, hfill⟩
    refine ⟨_, ⟨hletters, rfl⟩, ?_⟩
    rw [List.flatMap_map]
    exact hfill

/-- What is left of a text does not end in padding, and only padding has been dropped. -/
theorem dropPadding_spec (text : List UInt8) :
    (∃ n, text = dropPadding text ++ List.replicate n pad) ∧
      (dropPadding text).getLast? ≠ some pad := by
  constructor
  · obtain ⟨tail, htext, htail⟩ := exists_dropEnd (· == pad) text
    have hpadding : tail = List.replicate tail.length pad :=
      List.eq_replicate_iff.mpr ⟨rfl, fun c hc => eq_of_beq (htail c hc)⟩
    exact ⟨tail.length, hpadding ▸ htext⟩
  · intro hlast
    rw [dropPadding, List.getLast?_reverse] at hlast
    have hhead := List.head?_dropWhile_not (· == pad) text.reverse
    rw [hlast] at hhead
    exact absurd hhead (by decide)

/-- Decoding goes on with the bits that are left once a character has been taken in. -/
theorem decodeFrom_cons {p : Pending} {c : UInt8} {v : Nat} {rest : List UInt8}
    (h : value? c = some v) :
    decodeFrom? p (c :: rest) =
      (decodeFrom? (p.push v).1 rest).map ((p.push v).2.toList ++ ·) := by
  simp only [decodeFrom?, h]
  obtain ⟨q, out⟩ := p.push v
  cases out with
  | none => simp
  | some b => rfl

/-! ## Registers -/

/-- A word with the bits that fill no byte yet, how many they are, and the bytes so far. -/
structure Register where
  word : UInt32
  bits : UInt32
  bytes : List UInt8
  deriving DecidableEq, Repr

namespace Register

/-- A register before anything has been taken in. -/
def empty : Register := ⟨0, 0, []⟩

/-- A word as a byte, unless it is too large. -/
def byte? (w : UInt32) : Option UInt8 := if w < 256 then some w.toUInt8 else none

/-- Take in a character. Its six bits are moved into the word from below, and a full byte is cut out
at the top. -/
def read (r : Register) (c : UInt8) : Option Register := do
  let v ← value? c
  let word := r.word <<< 6 ||| UInt32.ofNat v
  let bits := r.bits + 6
  if 8 ≤ bits then
    let b ← byte? (word >>> (bits - 8))
    pure ⟨word &&& ((1 <<< (bits - 8)) - 1), bits - 8, r.bytes ++ [b]⟩
  else pure ⟨word, bits, r.bytes⟩

/-- Take in characters one after the other. -/
def readAll (r : Register) (letters : List UInt8) : Option Register := letters.foldlM read r

/-- The bits in a register as a number. -/
def pending (r : Register) : Pending := ⟨r.bits.toNat, r.word.toNat⟩

/-- The bits in a register are an even number of them and less than a byte, and there are no others
in its word. -/
structure Fits (r : Register) : Prop where
  few : r.bits.toNat < 8
  even : Even r.bits.toNat
  small : r.word.toNat < 2 ^ r.bits.toNat

theorem fits_empty : empty.Fits := ⟨by decide, by decide, by decide⟩

variable {r : Register}

theorem Fits.word_lt (h : r.Fits) : r.word.toNat < 2 ^ 6 := by
  have heven : r.bits.toNat ≤ 6 := by
    obtain ⟨k, hk⟩ := h.even
    have hfew := h.few
    omega
  exact Nat.lt_of_lt_of_le h.small (Nat.pow_le_pow_right (by decide) heven)

/-- No bit is moved out of the word. -/
theorem Fits.shift (h : r.Fits) : (r.word <<< 6).toNat = r.word.toNat * 2 ^ 6 := by
  have hlt := h.word_lt
  rw [UInt32.toNat_shiftLeft, show (6 : UInt32).toNat % 32 = 6 from rfl, Nat.shiftLeft_eq]
  omega

/-- Six bits are put below those that are in the word. -/
theorem Fits.toNat_word (h : r.Fits) {v : Nat} (hv : v < 64) :
    (r.word <<< 6 ||| UInt32.ofNat v).toNat = r.word.toNat * 64 + v := by
  have hsmall : v < 2 ^ 32 := by omega
  rw [UInt32.toNat_or, h.shift, UInt32.toNat_ofNat', Nat.mod_eq_of_lt hsmall, Nat.mul_comm,
    ← Nat.two_pow_add_eq_or_of_lt hv]
  omega

/-- A small word is a byte. -/
theorem byte_of_lt {w : UInt32} {n : Nat} (hw : w.toNat = n) (hn : n < 256) :
    byte? w = some (UInt8.ofNat n) := by
  have hlt : w < 256 := by
    rw [UInt32.lt_iff_toNat_lt, hw]
    exact hn
  subst hw
  rw [byte?, if_pos hlt]
  rfl

/-- The lowest bits of a word. -/
theorem toNat_and_mask (w : UInt32) {k : UInt32} (hk : k.toNat < 32) :
    (w &&& ((1 <<< k) - 1)).toNat = w.toNat % 2 ^ k.toNat := by
  have hunit : ((1 : UInt32) <<< k).toNat = 2 ^ k.toNat := by
    rw [UInt32.toNat_shiftLeft, Nat.mod_eq_of_lt hk, Nat.shiftLeft_eq, UInt32.toNat_one,
      Nat.one_mul]
    exact Nat.mod_eq_of_lt (Nat.pow_lt_pow_right (by decide) hk)
  have hmask : ((1 <<< k : UInt32) - 1).toNat = 2 ^ k.toNat - 1 := by
    have hle : (1 : UInt32) ≤ 1 <<< k := by
      rw [UInt32.le_iff_toNat_le, hunit]
      exact Nat.one_le_two_pow
    rw [UInt32.toNat_sub_of_le _ _ hle, hunit, UInt32.toNat_one]
  rw [UInt32.toNat_and, hmask, Nat.and_two_pow_sub_one_eq_mod]

theorem Fits.pending (h : r.Fits) : r.pending.Fits := ⟨h.few, h.small⟩

/-- There is room for six more bits in the count. -/
theorem Fits.toNat_bits (h : r.Fits) : (r.bits + 6).toNat = r.bits.toNat + 6 := by
  have hfew := h.few
  rw [UInt32.toNat_add, show (6 : UInt32).toNat = 6 from rfl]
  omega

/-- The bits at the top of the word that are more than are left are a byte. -/
theorem Fits.top_lt (h : r.Fits) {v : Nat} (hv : v < 64) (hfull : 8 ≤ r.bits.toNat + 6) :
    (r.word.toNat * 64 + v) / 2 ^ (r.bits.toNat + 6 - 8) < 256 := by
  have hsmall := h.small
  have hall : r.word.toNat * 64 + v < 2 ^ (r.bits.toNat + 6 - 8) * 2 ^ 8 := by
    rw [← Nat.pow_add, Nat.sub_add_cancel hfull, Nat.pow_add]
    omega
  exact Nat.div_lt_of_lt_mul hall

/-- A register takes in a character of the alphabet, as if there were room for any number of bits.
-/
theorem Fits.read_eq (h : r.Fits) {c : UInt8} {v : Nat} (hvalue : value? c = some v) :
    ∃ s : Register, r.read c = some s ∧ s.pending = (r.pending.push v).1 ∧
      s.bytes = r.bytes ++ (r.pending.push v).2.toList ∧ Even s.bits.toNat := by
  have hv := value_lt hvalue
  have hword := h.toNat_word hv
  have hbits := h.toNat_bits
  have heven : Even (r.bits.toNat + 6) := h.even.add (by decide)
  by_cases hfull : 8 ≤ r.bits.toNat + 6
  · have hle : 8 ≤ r.bits + 6 := by
      rw [UInt32.le_iff_toNat_le, hbits]
      exact hfull
    have hleft : (r.bits + 6 - 8).toNat = r.bits.toNat + 6 - 8 := by
      rw [UInt32.toNat_sub_of_le _ _ hle, hbits]
      rfl
    have hshift : (r.bits + 6 - 8).toNat < 32 := by
      have hfew := h.few
      omega
    have htop : ((r.word <<< 6 ||| UInt32.ofNat v) >>> (r.bits + 6 - 8)).toNat =
        (r.word.toNat * 64 + v) / 2 ^ (r.bits.toNat + 6 - 8) := by
      rw [UInt32.toNat_shiftRight, Nat.mod_eq_of_lt hshift, hword, hleft,
        Nat.shiftRight_eq_div_pow]
    have hread : r.read c = some ⟨(r.word <<< 6 ||| UInt32.ofNat v) &&&
        ((1 <<< (r.bits + 6 - 8)) - 1), r.bits + 6 - 8, r.bytes ++
          [UInt8.ofNat ((r.word.toNat * 64 + v) / 2 ^ (r.bits.toNat + 6 - 8))]⟩ := by
      simp only [Register.read, hvalue, Option.bind_eq_bind, Option.bind_some, if_pos hle,
        byte_of_lt htop (h.top_lt hv hfull), Option.pure_def]
    refine ⟨_, hread, ?_, ?_, ?_⟩
    · simp [Register.pending, Pending.push, hfull, toNat_and_mask _ hshift, hword, hleft]
    · simp [Register.pending, Pending.push, hfull]
    · show Even (r.bits + 6 - 8).toNat
      rw [hleft]
      exact (Nat.even_sub hfull).mpr (iff_of_true heven (by decide))
  · have hnot : ¬ 8 ≤ r.bits + 6 := by
      rw [UInt32.le_iff_toNat_le, hbits]
      exact hfull
    have hread : r.read c = some ⟨r.word <<< 6 ||| UInt32.ofNat v, r.bits + 6, r.bytes⟩ := by
      simp only [Register.read, hvalue, Option.bind_eq_bind, Option.bind_some, if_neg hnot,
        Option.pure_def]
    refine ⟨_, hread, ?_, ?_, ?_⟩
    · simp [Register.pending, Pending.push, hfull, hword, hbits]
    · simp [Register.pending, Pending.push, hfull]
    · show Even (r.bits + 6).toNat
      rw [hbits]
      exact heven

/-- No other character is taken in. -/
theorem Fits.read_eq_none_iff (h : r.Fits) {c : UInt8} : r.read c = none ↔ c ∉ alphabet := by
  rw [← value_eq_none_iff]
  cases hvalue : value? c with
  | none => simp [Register.read, hvalue]
  | some v =>
      obtain ⟨s, hread, -⟩ := h.read_eq hvalue
      simp [hread]

/-- The bits in a register stay within their bounds. -/
theorem Fits.of_read (h : r.Fits) {c : UInt8} {s : Register} (hread : r.read c = some s) :
    s.Fits := by
  cases hvalue : value? c with
  | none =>
      rw [h.read_eq_none_iff.mpr (value_eq_none_iff.mp hvalue)] at hread
      cases hread
  | some v =>
      obtain ⟨s', hread', hpending, -, heven⟩ := h.read_eq hvalue
      obtain rfl := Option.some.inj (hread.symm.trans hread')
      have hfits : s.pending.Fits := by
        rw [hpending]
        rcases h.pending.push (value_lt hvalue) with ⟨q, hpush, hq, -⟩ | ⟨q, b, hpush, hq, -⟩
        · rw [hpush]
          exact hq
        · rw [hpush]
          exact hq
      exact ⟨hfits.1, heven, hfits.2⟩

/-- Whatever has been taken in, the bits in a register are within their bounds. -/
theorem Fits.of_readAll {letters : List UInt8} {s : Register} (h : r.Fits)
    (hread : r.readAll letters = some s) : s.Fits := by
  induction letters generalizing r with
  | nil =>
      obtain rfl := Option.some.inj hread
      exact h
  | cons c rest ih =>
      rw [readAll, List.foldlM_cons] at hread
      obtain ⟨next, hnext, hrest⟩ := Option.bind_eq_some_iff.mp hread
      exact ih (h.of_read hnext) hrest

/-- A register is where the decoding of a text is after the characters it has taken in. -/
theorem Fits.decodeFrom_append {front : List UInt8} (h : r.Fits) (rest : List UInt8) :
    (decodeFrom? r.pending (front ++ rest)).map (r.bytes ++ ·) =
      (r.readAll front).bind fun s => (decodeFrom? s.pending rest).map (s.bytes ++ ·) := by
  induction front generalizing r with
  | nil => rfl
  | cons c front ih =>
      rw [readAll, List.foldlM_cons, List.cons_append]
      cases hvalue : value? c with
      | none =>
          rw [h.read_eq_none_iff.mpr (value_eq_none_iff.mp hvalue)]
          simp [decodeFrom?, hvalue]
      | some v =>
          obtain ⟨s, hread, hpending, hbytes, -⟩ := h.read_eq hvalue
          have hs := ih (h.of_read hread)
          rw [hpending, hbytes] at hs
          rw [hread, decodeFrom_cons hvalue, Option.map_map]
          simp only [Function.comp_def, ← List.append_assoc]
          exact hs

end Register

/-! ## Decoded texts -/

/-- The text that is decoded from the standard encoding of a text is this text, be the padding there
or not. A text is decoded from any other characters exactly if they are of the alphabet, apart from
padding at the end, and the whole bytes among their bits are those of the text. A register of 32
bits is large enough: it is always where the decoding is, the bits in it are an even number below
eight and there are no others in its word, so that no bit is lost by shifting and what is cut out is
a byte. -/
theorem text_decoded_exactly :
    (∀ (s : String) (text : List UInt8), Encodes text (Utf8.encode s) →
      (decodeLoose? text).bind Utf8.decode? = some s) ∧
    (∀ (text : List UInt8) (s : String), (decodeLoose? text).bind Utf8.decode? = some s ↔
      (∀ c ∈ dropPadding text, c ∈ alphabet) ∧
        Fill (stretch (dropPadding text)) (Utf8.encode s)) ∧
    (∀ text : List UInt8, (∃ n, text = dropPadding text ++ List.replicate n pad) ∧
      (dropPadding text).getLast? ≠ some pad) ∧
    (∀ front rest : List UInt8, decodeFrom? ⟨0, 0⟩ (front ++ rest) =
      (Register.empty.readAll front).bind fun r =>
        (decodeFrom? r.pending rest).map (r.bytes ++ ·)) ∧
    ∀ (front : List UInt8) (r : Register), Register.empty.readAll front = some r →
      r.bits.toNat < 8 ∧ Even r.bits.toNat ∧ r.word.toNat < 2 ^ r.bits.toNat ∧
        (r.word <<< 6).toNat = r.word.toNat * 2 ^ 6 ∧ ∀ c, r.read c = none ↔ c ∉ alphabet := by
  refine ⟨fun s text h => ?_, fun text s => ?_, dropPadding_spec, fun front rest => ?_,
    fun front r hread => ?_⟩
  · rw [h.decodeLoose]
    exact Utf8.decode_eq_some_iff.mpr rfl
  · rw [Option.bind_eq_some_iff, ← decodeFrom_start_eq_some_iff]
    constructor
    · rintro ⟨bytes, hbytes, hs⟩
      obtain rfl := Utf8.decode_eq_some_iff.mp hs
      exact hbytes
    · intro hbytes
      exact ⟨_, hbytes, Utf8.decode_eq_some_iff.mpr rfl⟩
  · rw [← Register.fits_empty.decodeFrom_append rest]
    simp [Register.empty, Register.pending]
  · have hfits := Register.fits_empty.of_readAll hread
    exact ⟨hfits.few, hfits.even, hfits.small, hfits.shift, fun _ => hfits.read_eq_none_iff⟩

/-- Six characters and one of two signs of padding are decoded, and after two of these characters
the register holds the first byte and four bits of the second one. -/
theorem text_decoded_exactly_of_half_padded :
    Encodes (Utf8.encode "w6k6cA=") (Utf8.encode "é:p") ∧
      (decodeLoose? (Utf8.encode "w6k6cA=")).bind Utf8.decode? = some "é:p" ∧
      Register.empty.readAll (Utf8.encode "w6") = some ⟨10, 4, [0xC3]⟩ ∧
      ((10 : UInt32) <<< 6).toNat = 640 ∧ Register.read ⟨10, 4, [0xC3]⟩ pad = none := by
  have hencodes : Encodes (Utf8.encode "w6k6cA=") (Utf8.encode "é:p") := ⟨1, by decide +kernel⟩
  have hread : Register.empty.readAll (Utf8.encode "w6") = some ⟨10, 4, [0xC3]⟩ := by
    decide +kernel
  obtain ⟨hdecoded, -, -, -, hregister⟩ := text_decoded_exactly
  obtain ⟨-, -, -, hshift, hread_none⟩ := hregister _ _ hread
  exact ⟨hencodes, hdecoded _ _ hencodes, hread, hshift, (hread_none pad).mpr (by decide)⟩

end GaleraProxy.Base64
