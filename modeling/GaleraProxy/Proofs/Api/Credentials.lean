import GaleraProxy.Api.Credentials
import GaleraProxy.Proofs.Text.Base64
import GaleraProxy.Proofs.Text.Utf8

/-!
# Which headers show the credentials

`Shows` is the form of a header's value that shows a user name and a password: the scheme, blanks,
and the encoding of the two with a colon between them. `shown_eq_some_iff` says that nothing else is
taken for credentials and that every value of this form is.
-/

namespace GaleraProxy.Credentials

/-! ## The form of a value -/

/-- A byte that is text: a visible ASCII character, a blank or a tab. -/
def IsReadable (b : UInt8) : Prop := b = 0x09 ∨ 0x20 ≤ b ∧ b < 0x7F

/-- A byte that may stand around what is encoded. -/
def IsBlank (b : UInt8) : Prop := b = 0x20 ∨ b = 0x09

/-- The name of the scheme and one blank. -/
def schemeBytes : List UInt8 := Utf8.encode "Basic "

/-- A value is text that shows credentials. Their user name ends at the first colon, so no user name
with a colon can be shown. -/
structure Shows (c : Credentials) (value : List UInt8) : Prop where
  readable : ∀ b ∈ value, IsReadable b
  splits : ':' ∉ c.username.toList
  form : ∃ front encoded back, value = schemeBytes ++ (front ++ (encoded ++ back)) ∧
    (∀ b ∈ front, IsBlank b) ∧ (∀ b ∈ back, IsBlank b) ∧
    Base64.Spells encoded (Utf8.encode (c.username ++ ":" ++ c.password))

/-! ## Bytes and characters -/

/-- The character of a byte of a text. -/
def charOf (b : UInt8) : Char := Char.ofNat b.toNat

/-- The byte of a character of a text. -/
def byteOf (c : Char) : UInt8 := UInt8.ofNat c.toNat

theorem byteOf_charOf (b : UInt8) : byteOf (charOf b) = b := by
  have hvalid : b.toNat.isValidChar := .inl (Nat.lt_trans b.toNat_lt (by decide))
  rw [byteOf, charOf, Utf8.toNat_ofNat hvalid, UInt8.ofNat_toNat]

/-- Bytes are known by their characters. -/
theorem map_byteOf_charOf (bytes : List UInt8) : (bytes.map charOf).map byteOf = bytes := by
  rw [List.map_map]
  exact (List.map_congr_left fun b _ => byteOf_charOf b).trans (List.map_id bytes)

theorem map_charOf_scheme : schemeBytes.map charOf = "Basic ".toList := by
  rw [schemeBytes, Utf8.encode_eq_flatMap]
  decide

/-! ## The stages of reading -/

/-- Blanks and tabs stand around what is encoded. -/
def isBlankChar (c : Char) : Bool := c == ' ' || c == '\t'

theorem isBlankChar_charOf {b : UInt8} : isBlankChar (charOf b) = true ↔ IsBlank b := by
  have hinj : ∀ b' : UInt8, charOf b = charOf b' ↔ b = b' := fun b' =>
    ⟨fun h => by rw [← byteOf_charOf b, h, byteOf_charOf], congrArg charOf⟩
  have hblank : ' ' = charOf 0x20 := rfl
  have htab : '\t' = charOf 0x09 := rfl
  rw [isBlankChar, Bool.or_eq_true, beq_iff_eq, beq_iff_eq, hblank, htab, hinj, hinj]
  rfl

/-- The byte of a blank is one. -/
theorem isBlank_byteOf {c : Char} (h : isBlankChar c = true) : IsBlank (byteOf c) := by
  rcases Bool.or_eq_true_iff.mp h with hblank | htab
  · obtain rfl := eq_of_beq hblank
    exact .inl rfl
  · obtain rfl := eq_of_beq htab
    exact .inr rfl

/-- There is no blank in what is encoded. -/
theorem not_isBlank_of_spells {text bytes : List UInt8} (h : Base64.Spells text bytes) :
    ∀ b ∈ text, ¬ IsBlank b := by
  intro b hb
  have hblank : 0x20 ∉ Base64.alphabet ∧ (0x20 : UInt8) ≠ Base64.pad := by decide
  have htab : 0x09 ∉ Base64.alphabet ∧ (0x09 : UInt8) ≠ Base64.pad := by decide
  rintro (rfl | rfl)
  · exact (h.mem_alphabet _ hb).elim hblank.1 hblank.2
  · exact (h.mem_alphabet _ hb).elim htab.1 htab.2

theorem headerText_eq_some_iff {value : List UInt8} {text : List Char} :
    headerText? value = some text ↔ (∀ b ∈ value, IsReadable b) ∧ text = value.map charOf := by
  have hall : (value.all fun b => b == 0x09 || (0x20 ≤ b && b < 0x7F)) = true ↔
      ∀ b ∈ value, IsReadable b := by
    simp [IsReadable]
  rw [headerText?, Option.ite_none_right_eq_some, hall, Option.some.injEq]
  exact and_congr_right fun _ => eq_comm

/-- What follows the scheme in a text stands between blanks. -/
theorem exists_of_afterScheme {text rest : List Char} (h : afterScheme? text = some rest) :
    ∃ front back, text = "Basic ".toList ++ (front ++ (rest ++ back)) ∧
      (∀ c ∈ front, isBlankChar c = true) ∧ ∀ c ∈ back, isBlankChar c = true := by
  obtain ⟨hscheme, heq⟩ := Option.ite_none_right_eq_some.mp h
  obtain ⟨tail, rfl⟩ := List.isPrefixOf_iff_prefix.mp hscheme
  rw [List.drop_left, Option.some.injEq] at heq
  obtain ⟨front, hfront, hfront'⟩ := exists_dropStart isBlankChar tail
  obtain ⟨back, hback, hback'⟩ := exists_dropEnd isBlankChar (tail.dropWhile isBlankChar)
  have hrest : ((tail.dropWhile isBlankChar).reverse.dropWhile isBlankChar).reverse = rest := heq
  rw [hrest] at hback
  exact ⟨front, back, by rw [← hback, ← hfront], hfront', hback'⟩

/-- What stands between blanks after the scheme is found if it has no blanks itself. -/
theorem afterScheme_append {front rest back : List Char}
    (hfront : ∀ c ∈ front, isBlankChar c = true) (hrest : ∀ c ∈ rest, isBlankChar c = false)
    (hback : ∀ c ∈ back, isBlankChar c = true) :
    afterScheme? ("Basic ".toList ++ (front ++ (rest ++ back))) = some rest := by
  have hscheme :
      "Basic ".toList.isPrefixOf ("Basic ".toList ++ (front ++ (rest ++ back))) = true :=
    List.isPrefixOf_iff_prefix.mpr (List.prefix_append _ _)
  rw [afterScheme?, if_pos hscheme, List.drop_left, Option.some.injEq]
  show (((front ++ (rest ++ back)).dropWhile isBlankChar).reverse.dropWhile isBlankChar).reverse
    = rest
  exact dropEnd_dropStart_append hfront hrest hback

/-- A text is split at its first colon. -/
theorem splitColon_eq_some_iff {text before after : List Char} :
    splitColon? text = some (before, after) ↔ text = before ++ ':' :: after ∧ ':' ∉ before := by
  induction text generalizing before with
  | nil => simp [splitColon?]
  | cons c rest ih =>
      by_cases hc : c = ':'
      · subst hc
        rw [splitColon?, Option.some.injEq, Prod.mk.injEq]
        constructor
        · rintro ⟨rfl, rfl⟩
          exact ⟨rfl, List.not_mem_nil⟩
        · rintro ⟨heq, hbefore⟩
          cases before with
          | nil => exact ⟨rfl, (List.cons.inj heq).2⟩
          | cons d others =>
              have hd : ':' = d := (List.cons.inj heq).1
              exact absurd (hd ▸ List.mem_cons_self) hbefore
      · have hsplit : splitColon? (c :: rest) =
            (splitColon? rest).map fun parts => (c :: parts.1, parts.2) := by
          rw [splitColon?]
          exact fun h => hc h
        rw [hsplit, Option.map_eq_some_iff]
        constructor
        · rintro ⟨⟨others, after'⟩, hothers, heq⟩
          obtain ⟨rfl, rfl⟩ := Prod.mk.inj heq
          obtain ⟨rfl, hnot⟩ := ih.mp hothers
          refine ⟨rfl, fun hmem => ?_⟩
          rcases List.mem_cons.mp hmem with h | h
          · exact hc h.symm
          · exact hnot h
        · rintro ⟨heq, hbefore⟩
          cases before with
          | nil => exact absurd (List.cons.inj heq).1 hc
          | cons d others =>
              obtain ⟨rfl, hrest⟩ := List.cons.inj heq
              have hnot : ':' ∉ others := fun hmem => hbefore (List.mem_cons_of_mem c hmem)
              exact ⟨(others, after), ih.mpr ⟨hrest, hnot⟩, rfl⟩

/-! ## What is shown -/

/-- What is read from a value has the form of credentials. -/
theorem shows_of_shown {c : Credentials} {value : List UInt8} (h : shown? value = some c) :
    c.Shows value := by
  simp only [shown?, Option.bind_eq_bind, Option.bind_eq_some_iff, headerText_eq_some_iff] at h
  obtain ⟨text, ⟨hreadable, rfl⟩, encoded, hencoded, bytes, hbytes, decoded, hdecoded,
    ⟨username, password⟩, hsplit, hc⟩ := h
  obtain rfl := Option.some.inj hc
  obtain rfl := Utf8.decode_eq_some_iff.mp hdecoded
  obtain ⟨hdecoded, hcolon⟩ := splitColon_eq_some_iff.mp hsplit
  obtain ⟨front, back, htext, hfront, hback⟩ := exists_of_afterScheme hencoded
  have hblank : ∀ {stretch : List Char}, (∀ c ∈ stretch, isBlankChar c = true) →
      ∀ b ∈ stretch.map byteOf, IsBlank b := by
    intro stretch hstretch b hb
    obtain ⟨c, hc, rfl⟩ := List.mem_map.mp hb
    exact isBlank_byteOf (hstretch c hc)
  have hscheme : schemeBytes = "Basic ".toList.map byteOf := by
    rw [← map_charOf_scheme, map_byteOf_charOf]
  have hform : value = schemeBytes ++
      (front.map byteOf ++ (encoded.map byteOf ++ back.map byteOf)) := by
    rw [← map_byteOf_charOf value, htext, hscheme, List.map_append, List.map_append,
      List.map_append]
  have hjoined : decoded = String.ofList username ++ ":" ++ String.ofList password := by
    rw [← String.toList_inj, hdecoded]
    simp
  refine ⟨hreadable, ?_, front.map byteOf, encoded.map byteOf, back.map byteOf, hform,
    hblank hfront, hblank hback, ?_⟩
  · rwa [String.toList_ofList]
  · rw [← hjoined]
    exact Base64.decodeLoose_eq_some_iff.mp hbytes

/-- A value of the form of credentials is read as them. -/
theorem Shows.shown {c : Credentials} {value : List UInt8} (h : c.Shows value) :
    shown? value = some c := by
  obtain ⟨hreadable, hcolon, front, encoded, back, hform, hfront, hback, hspells⟩ := h
  have hblank : ∀ {stretch : List UInt8}, (∀ b ∈ stretch, IsBlank b) →
      ∀ c ∈ stretch.map charOf, isBlankChar c = true := by
    intro stretch hstretch c hc
    obtain ⟨b, hb, rfl⟩ := List.mem_map.mp hc
    exact isBlankChar_charOf.mpr (hstretch b hb)
  have hother : ∀ c ∈ encoded.map charOf, isBlankChar c = false := by
    intro c hc
    obtain ⟨b, hb, rfl⟩ := List.mem_map.mp hc
    exact Bool.eq_false_iff.mpr fun hblank =>
      not_isBlank_of_spells hspells b hb (isBlankChar_charOf.mp hblank)
  have hafter : afterScheme? (value.map charOf) = some (encoded.map charOf) := by
    rw [hform, List.map_append, List.map_append, List.map_append, map_charOf_scheme]
    exact afterScheme_append (hblank hfront) hother (hblank hback)
  have hbytes : Base64.decodeLoose? ((encoded.map charOf).map byteOf) =
      some (Utf8.encode (c.username ++ ":" ++ c.password)) := by
    rw [map_byteOf_charOf]
    exact Base64.decodeLoose_eq_some_iff.mpr hspells
  have hsplit : splitColon? (c.username ++ ":" ++ c.password).toList =
      some (c.username.toList, c.password.toList) := by
    refine splitColon_eq_some_iff.mpr ⟨?_, hcolon⟩
    simp
  simp only [shown?, Option.bind_eq_bind, Option.bind_eq_some_iff, headerText_eq_some_iff]
  refine ⟨value.map charOf, ⟨hreadable, rfl⟩, encoded.map charOf, hafter, _, hbytes, _,
    Utf8.decode_eq_some_iff.mpr rfl, _, hsplit, ?_⟩
  show some (⟨_, _⟩ : Credentials) = some c
  rw [String.ofList_toList, String.ofList_toList]

/-- A value shows credentials exactly if it has their form. -/
theorem shown_eq_some_iff {c : Credentials} {value : List UInt8} :
    shown? value = some c ↔ c.Shows value :=
  ⟨shows_of_shown, Shows.shown⟩

/-- The configured credentials are shown. -/
theorem admits_iff {c : Credentials} {value : List UInt8} :
    c.admits value = true ↔ c.Shows value := by
  rw [admits, beq_iff_eq, shown_eq_some_iff]

end GaleraProxy.Credentials
