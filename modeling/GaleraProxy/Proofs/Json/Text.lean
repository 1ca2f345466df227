import GaleraProxy.Json.Text
import GaleraProxy.Json.Value
import GaleraProxy.Proofs.Text.Utf8
import Mathlib.Tactic.SplitIfs

/-!
# Texts that are written are read back

`textBody_renderText` says that the text between quotes that `renderText` writes is read back as the
text that was written, whatever characters it has: those that need an escape have one, and every
escape stands for its character.
-/

namespace GaleraProxy

/-- The bytes of characters. -/
def Utf8.bytes (cs : List Char) : List UInt8 := cs.flatMap String.utf8EncodeChar

theorem Utf8.encode_ofList (cs : List Char) : Utf8.encode (String.ofList cs) = Utf8.bytes cs := by
  rw [Utf8.encode_eq_flatMap, String.toList_ofList]
  rfl

@[simp] theorem Utf8.bytes_append (cs ds : List Char) :
    Utf8.bytes (cs ++ ds) = Utf8.bytes cs ++ Utf8.bytes ds :=
  List.flatMap_append

@[simp] theorem Utf8.bytes_cons (c : Char) (cs : List Char) :
    Utf8.bytes (c :: cs) = String.utf8EncodeChar c ++ Utf8.bytes cs :=
  List.flatMap_cons

@[simp] theorem Utf8.bytes_nil : Utf8.bytes [] = [] := rfl

namespace Json

/-! ## Bytes that stand for themselves -/

/-- A byte that stands for itself in a text. -/
def IsPlain (b : UInt8) : Prop := b ≠ 0x22 ∧ b ≠ 0x5C ∧ ¬ b < 0x20

theorem isPlain_of_le {b : UInt8} (h : 0x80 ≤ b.toNat) : IsPlain b := by
  refine ⟨?_, ?_, ?_⟩
  · rintro rfl
    exact absurd h (by decide)
  · rintro rfl
    exact absurd h (by decide)
  · intro hlt
    have hlt' : b.toNat < 0x20 := UInt8.lt_iff_toNat_lt.1 hlt
    omega

/-- The bytes of a character that needs no escape stand for themselves. -/
theorem isPlain_of_char {c : Char} (hquote : c ≠ '"') (hslash : c ≠ '\\')
    (hcontrol : 0x20 ≤ c.toNat) : ∀ b ∈ String.utf8EncodeChar c, IsPlain b := by
  have hne : ∀ d : Char, c ≠ d → c.toNat ≠ d.toNat := fun d h heq => h (Char.toNat_inj.1 heq)
  have hquote' : c.toNat ≠ 0x22 := hne '"' hquote
  have hslash' : c.toNat ≠ 0x5C := hne '\\' hslash
  obtain ⟨hlt, h⟩ | ⟨h1, h2, h⟩ | ⟨h1, h2, h⟩ | ⟨h1, h⟩ := Utf8.encode_char_cases c
  · rw [h]
    intro b hb
    rw [List.mem_singleton] at hb
    subst hb
    have hbyte : (UInt8.ofNat c.toNat).toNat = c.toNat := Utf8.toNat_byte (by omega)
    refine ⟨?_, ?_, ?_⟩
    · intro heq
      exact hquote' (hbyte ▸ congrArg UInt8.toNat heq)
    · intro heq
      exact hslash' (hbyte ▸ congrArg UInt8.toNat heq)
    · intro hlt
      have hlt' : (UInt8.ofNat c.toNat).toNat < 0x20 := UInt8.lt_iff_toNat_lt.1 hlt
      omega
  all_goals
    rw [h]
    intro b hb
    apply isPlain_of_le
    simp only [List.mem_cons, List.not_mem_nil, or_false] at hb
  · obtain rfl | rfl := hb <;> rw [Utf8.toNat_byte (by omega)] <;> omega
  · obtain rfl | rfl | rfl := hb <;> rw [Utf8.toNat_byte (by omega)] <;> omega
  · obtain rfl | rfl | rfl | rfl := hb <;> rw [Utf8.toNat_byte (by omega)] <;> omega

/-- Bytes that stand for themselves are taken as they are. -/
theorem textBytes_plain {bs : List UInt8} (h : ∀ b ∈ bs, IsPlain b) (fuel offset : Nat)
    (done rest : List UInt8) :
    textBytes (fuel + bs.length) done ⟨offset, bs ++ rest⟩ =
      textBytes fuel (bs.reverse ++ done) ⟨offset + bs.length, rest⟩ := by
  induction bs generalizing offset done with
  | nil => rfl
  | cons b bs ih =>
      rw [List.forall_mem_cons] at h
      obtain ⟨hquote, hslash, hcontrol⟩ := h.1
      have hstep : textBytes (fuel + (b :: bs).length) done ⟨offset, b :: bs ++ rest⟩ =
          textBytes (fuel + bs.length) (b :: done) ⟨offset + 1, bs ++ rest⟩ := by
        rw [List.length_cons, ← Nat.add_assoc, textBytes]
        simp only [List.cons_append, if_neg hquote, if_neg hslash, if_neg hcontrol]
        rfl
      rw [hstep, ih h.2 (offset + 1) (b :: done), List.reverse_cons, List.append_assoc,
        List.length_cons, Nat.add_right_comm, Nat.add_assoc]
      rfl

/-! ## Escapes -/

/-- An escape that is read as a character puts its bytes into the text. -/
theorem textBytes_escape {c : Char} {escaped : List UInt8} {offset offset' : Nat}
    {rest : List UInt8} (h : escape ⟨offset + 1, escaped ++ rest⟩ = .ok (c, ⟨offset', rest⟩))
    (fuel : Nat) (done : List UInt8) :
    textBytes (fuel + 1) done ⟨offset, 0x5C :: escaped ++ rest⟩ =
      textBytes fuel ((String.utf8EncodeChar c).reverse ++ done) ⟨offset', rest⟩ := by
  have hencode : Utf8.encode (String.singleton c) = String.utf8EncodeChar c := by
    rw [Utf8.encode_eq_flatMap]
    simp
  rw [textBytes]
  show (escape ⟨offset + 1, escaped ++ rest⟩ >>= fun read =>
    textBytes fuel ((Utf8.encode (String.singleton read.1)).reverse ++ done) read.2) = _
  rw [h, ← hencode]
  rfl

/-- The digit of a number is read as that number. -/
theorem hexValue_hexDigit :
    ∀ n < 16, (String.utf8EncodeChar (hexDigit n)).map hexValue? = [some n] := by
  decide +kernel

/-- The escape of a control character by its number is read as that character. -/
theorem escape_control {c : Char} (h : c.toNat < 0x20) (offset : Nat) (rest : List UInt8) :
    escape ⟨offset, Utf8.bytes
      ['u', '0', '0', hexDigit (c.toNat / 16), hexDigit (c.toNat % 16)] ++ rest⟩ =
        .ok (c, ⟨offset + 5, rest⟩) := by
  obtain ⟨high, hhigh, hvalue⟩ :=
    List.map_eq_singleton_iff.1 (hexValue_hexDigit (c.toNat / 16) (by omega))
  obtain ⟨low, hlow, hvalue'⟩ :=
    List.map_eq_singleton_iff.1 (hexValue_hexDigit (c.toNat % 16) (by omega))
  have hbytes :
      Utf8.bytes ['u', '0', '0', hexDigit (c.toNat / 16), hexDigit (c.toNat % 16)] ++ rest =
        0x75 :: 0x30 :: 0x30 :: high :: low :: rest := by
    simp only [Utf8.bytes_cons, Utf8.bytes_nil, hhigh, hlow]
    rfl
  have hcode : ((0 * 16 + 0) * 16 + c.toNat / 16) * 16 + c.toNat % 16 = c.toNat := by omega
  rw [hbytes]
  show unicodeEscape ⟨offset + 1, 0x30 :: 0x30 :: high :: low :: rest⟩ = _
  have hhex : hexEscape ⟨offset + 1, 0x30 :: 0x30 :: high :: low :: rest⟩ =
      .ok (c.toNat, ⟨offset + 5, rest⟩) := by
    unfold hexEscape
    simp only [show hexValue? 0x30 = some 0 from rfl, hvalue, hvalue', hcode]
    rfl
  unfold unicodeEscape
  rw [hhex]
  show (if 0xDC00 ≤ c.toNat ∧ c.toNat ≤ 0xDFFF then _ else _) = _
  rw [if_neg (by omega), if_neg (by omega), Char.ofNat_toNat]
  rfl

/-- A character is written as it is, if all its bytes stand for themselves, or with an escape that
is read as the character. -/
theorem escapeChar_cases (c : Char) :
    (escapeChar c = [c] ∧ ∀ b ∈ String.utf8EncodeChar c, IsPlain b) ∨
    ∃ escaped, escapeChar c = '\\' :: escaped ∧ ∀ offset rest,
      ∃ offset', escape ⟨offset, Utf8.bytes escaped ++ rest⟩ = .ok (c, ⟨offset', rest⟩) := by
  unfold escapeChar
  split_ifs with hquote hslash hback hform hline hreturn htab hcontrol
  · subst hquote
    exact .inr ⟨['"'], rfl, fun offset rest => ⟨offset + 1, rfl⟩⟩
  · subst hslash
    exact .inr ⟨['\\'], rfl, fun offset rest => ⟨offset + 1, rfl⟩⟩
  · subst hback
    exact .inr ⟨['b'], rfl, fun offset rest => ⟨offset + 1, rfl⟩⟩
  · subst hform
    exact .inr ⟨['f'], rfl, fun offset rest => ⟨offset + 1, rfl⟩⟩
  · subst hline
    exact .inr ⟨['n'], rfl, fun offset rest => ⟨offset + 1, rfl⟩⟩
  · subst hreturn
    exact .inr ⟨['r'], rfl, fun offset rest => ⟨offset + 1, rfl⟩⟩
  · subst htab
    exact .inr ⟨['t'], rfl, fun offset rest => ⟨offset + 1, rfl⟩⟩
  · exact .inr ⟨_, rfl, fun offset rest => ⟨offset + 5, escape_control hcontrol offset rest⟩⟩
  · exact .inl ⟨rfl, isPlain_of_char hquote hslash (by omega)⟩

/-! ## Whole texts -/

/-- What is written of a character puts the bytes of the character into the text. -/
theorem textBytes_escapeChar (c : Char) (fuel : Nat)
    (hfuel : (Utf8.bytes (escapeChar c)).length ≤ fuel) (done : List UInt8) (offset : Nat)
    (rest : List UInt8) :
    ∃ fuel' offset', fuel ≤ fuel' + (Utf8.bytes (escapeChar c)).length ∧
      textBytes fuel done ⟨offset, Utf8.bytes (escapeChar c) ++ rest⟩ =
        textBytes fuel' ((String.utf8EncodeChar c).reverse ++ done) ⟨offset', rest⟩ := by
  -- a plain character takes one step for each of its bytes, an escape takes one step in all
  obtain ⟨hplain, hbytes⟩ | ⟨escaped, hescaped, hread⟩ := escapeChar_cases c
  · rw [hplain, Utf8.bytes_cons, Utf8.bytes_nil, List.append_nil] at hfuel ⊢
    obtain ⟨fuel', rfl⟩ := Nat.exists_eq_add_of_le' hfuel
    exact ⟨fuel', _, Nat.le_refl _, textBytes_plain hbytes fuel' offset done rest⟩
  · obtain ⟨offset', hescape⟩ := hread (offset + 1) rest
    have hcons : Utf8.bytes ('\\' :: escaped) = 0x5C :: Utf8.bytes escaped := rfl
    rw [hescaped, hcons] at hfuel ⊢
    rw [List.length_cons] at hfuel ⊢
    obtain ⟨fuel', rfl⟩ := Nat.exists_eq_add_of_le' (Nat.le_of_add_left_le hfuel)
    exact ⟨fuel', offset', by omega, textBytes_escape hescape fuel' done⟩

/-- The bytes of a written text are read up to the closing quote. -/
theorem textBytes_written (cs : List Char) (fuel : Nat)
    (hfuel : (Utf8.bytes (cs.flatMap escapeChar)).length < fuel) (done : List UInt8) (offset : Nat)
    (rest : List UInt8) :
    ∃ offset', textBytes fuel done
        ⟨offset, Utf8.bytes (cs.flatMap escapeChar) ++ 0x22 :: rest⟩ =
      .ok (done.reverse ++ Utf8.bytes cs, ⟨offset', rest⟩) := by
  induction cs generalizing fuel done offset with
  | nil =>
      obtain ⟨fuel, rfl⟩ := Nat.exists_eq_add_of_lt hfuel
      refine ⟨offset + 1, ?_⟩
      rw [textBytes, Utf8.bytes_nil, List.append_nil]
      rfl
  | cons c cs ih =>
      rw [List.flatMap_cons, Utf8.bytes_append] at hfuel ⊢
      rw [List.length_append] at hfuel
      rw [List.append_assoc]
      obtain ⟨fuel', offset', hle, hread⟩ := textBytes_escapeChar c fuel (by omega) done offset
        (Utf8.bytes (cs.flatMap escapeChar) ++ 0x22 :: rest)
      obtain ⟨last, hlast⟩ :=
        ih fuel' (by omega) ((String.utf8EncodeChar c).reverse ++ done) offset'
      refine ⟨last, ?_⟩
      rw [hread, hlast, List.reverse_append, List.reverse_reverse, List.append_assoc,
        Utf8.bytes_cons]

/-- A text that is written between quotes is read back. -/
theorem textBody_renderText (s : String) (offset : Nat) (rest : List UInt8) :
    ∃ offset', textBody ⟨offset, Utf8.bytes (s.toList.flatMap escapeChar) ++ 0x22 :: rest⟩ =
      .ok (s, ⟨offset', rest⟩) := by
  obtain ⟨offset', hread⟩ := textBytes_written s.toList
    ((Utf8.bytes (s.toList.flatMap escapeChar) ++ 0x22 :: rest).length + 1)
    (by rw [List.length_append]; omega) [] offset rest
  refine ⟨offset', ?_⟩
  have hdecode : Utf8.decode? (Utf8.bytes s.toList) = some s :=
    Utf8.decode_eq_some_iff.2 (Utf8.encode_eq_flatMap s).symm
  unfold textBody
  rw [hread]
  simp only [bind, Except.bind, List.reverse_nil, List.nil_append, hdecode]
  rfl

end Json

end GaleraProxy
