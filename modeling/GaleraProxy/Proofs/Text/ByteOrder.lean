import GaleraProxy.Proofs.Text.Utf8
import Mathlib.Data.String.Basic

/-!
# The order of texts and the order of bytes

In UTF-8 the bytes of a character with a greater code come after those of one with a lesser code, so
that texts are in the same order as their bytes: `encode_lt_iff`.
-/

namespace GaleraProxy.Utf8

theorem ofNat_lt_ofNat {x y : Nat} (hlt : x < y) (hy : y < 256) :
    UInt8.ofNat x < UInt8.ofNat y := by
  rw [UInt8.lt_iff_toNat_lt, toNat_byte (Nat.lt_trans hlt hy), toNat_byte hy]
  exact hlt

/-- Bytes that begin with a lesser one come first. -/
theorem lex_of_lt {x y : Nat} {front back : List UInt8} (hlt : x < y) (hy : y < 256) :
    List.Lex (· < ·) (UInt8.ofNat x :: front) (UInt8.ofNat y :: back) :=
  .rel (ofNat_lt_ofNat hlt hy)

/-- Bytes that do not begin with a greater one come first if they do so where the first bytes are
the same. -/
theorem lex_of_le {x y : Nat} {front back : List UInt8} (hle : x ≤ y) (hy : y < 256)
    (h : x = y → List.Lex (· < ·) front back) :
    List.Lex (· < ·) (UInt8.ofNat x :: front) (UInt8.ofNat y :: back) := by
  rcases Nat.lt_or_eq_of_le hle with hlt | heq
  · exact lex_of_lt hlt hy
  · rw [heq]
    exact .cons (h heq)

/-- The bytes of a character with a lesser code come first, whatever stands behind them. -/
theorem lex_encode_char {c d : Char} (h : c.toNat < d.toNat) (front back : List UInt8) :
    List.Lex (· < ·) (String.utf8EncodeChar c ++ front) (String.utf8EncodeChar d ++ back) := by
  have hlast : d.toNat < 0x110000 := by
    have hvalid : d.toNat < 0xD800 ∨ 0xDFFF < d.toNat ∧ d.toNat < 0x110000 := d.valid
    omega
  -- fewer bytes begin with a lesser one, and of as many bytes the first difference decides
  rcases encode_char_cases c with
    ⟨hc, hfront⟩ | ⟨hc, hc', hfront⟩ | ⟨hc, hc', hfront⟩ | ⟨hc, hfront⟩
  · rw [hfront]
    rcases encode_char_cases d with
      ⟨hd, hback⟩ | ⟨hd, hd', hback⟩ | ⟨hd, hd', hback⟩ | ⟨hd, hback⟩
    all_goals
      rw [hback]
      exact lex_of_lt (by omega) (by omega)
  · rw [hfront]
    rcases encode_char_cases d with
      ⟨hd, hback⟩ | ⟨hd, hd', hback⟩ | ⟨hd, hd', hback⟩ | ⟨hd, hback⟩
    · omega
    · rw [hback]
      refine lex_of_le (by omega) (by omega) fun hfirst => ?_
      exact lex_of_lt (by omega) (by omega)
    all_goals
      rw [hback]
      exact lex_of_lt (by omega) (by omega)
  · rw [hfront]
    rcases encode_char_cases d with
      ⟨hd, hback⟩ | ⟨hd, hd', hback⟩ | ⟨hd, hd', hback⟩ | ⟨hd, hback⟩
    · omega
    · omega
    · rw [hback]
      refine lex_of_le (by omega) (by omega) fun hfirst => ?_
      refine lex_of_le (by omega) (by omega) fun hsecond => ?_
      exact lex_of_lt (by omega) (by omega)
    · rw [hback]
      exact lex_of_lt (by omega) (by omega)
  · rw [hfront]
    rcases encode_char_cases d with
      ⟨hd, hback⟩ | ⟨hd, hd', hback⟩ | ⟨hd, hd', hback⟩ | ⟨hd, hback⟩
    · omega
    · omega
    · omega
    · rw [hback]
      refine lex_of_le (by omega) (by omega) fun hfirst => ?_
      refine lex_of_le (by omega) (by omega) fun hsecond => ?_
      refine lex_of_le (by omega) (by omega) fun hthird => ?_
      exact lex_of_lt (by omega) (by omega)

/-- The bytes of a lesser text come first. -/
theorem lex_encode {front back : List Char} (h : List.Lex (· < ·) front back) :
    List.Lex (· < ·) (front.flatMap String.utf8EncodeChar)
      (back.flatMap String.utf8EncodeChar) := by
  induction h with
  | @nil d rest =>
      rw [List.flatMap_nil, List.flatMap_cons]
      cases hbytes : String.utf8EncodeChar d with
      | nil => exact absurd hbytes String.utf8EncodeChar_ne_nil
      | cons b others => exact .nil
  | @cons c rest rest' _ ih =>
      rw [List.flatMap_cons, List.flatMap_cons]
      exact List.append_left_lt ih
  | @rel c rest d rest' hlt =>
      rw [List.flatMap_cons, List.flatMap_cons]
      exact lex_encode_char hlt _ _

/-- Texts are in the order of their bytes. -/
theorem encode_lt_iff (a b : String) : encode a < encode b ↔ a < b := by
  have hmono : ∀ {x y : String}, x < y → encode x < encode y := by
    intro x y h
    rw [encode_eq_flatMap, encode_eq_flatMap]
    exact lex_encode (String.lt_iff_toList_lt.mp h)
  constructor
  · intro h
    rcases lt_trichotomy a b with hlt | heq | hgt
    · exact hlt
    · exact absurd (heq ▸ h) (List.lt_irrefl _)
    · exact absurd h (List.lt_asymm (hmono hgt))
  · exact hmono

end GaleraProxy.Utf8
