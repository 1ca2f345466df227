import GaleraProxy.Proofs.Json.Grammar
import GaleraProxy.Proofs.Json.Number
import Mathlib.Data.List.TakeWhile

/-!
# What is passed over follows the grammar

A scanner passes over what the grammar asks for and nothing else: what was passed over is a number,
a literal or the rest of a text, and such a thing is passed over if what comes after it does not go
on with it. Only a number can be gone on with; `Ends` says that it is not. A text is read exactly
where every escape stands for a character and all bytes together are those of the text.
-/

namespace GaleraProxy.Json

open Grammar

/-- No blank space stands at the front. -/
def Solid (s : List UInt8) : Prop := ∀ b, s.head? = some b → isBlank b = false

theorem solid_cons {b : UInt8} (h : isBlank b = false) (s : List UInt8) : Solid (b :: s) := by
  rintro other heq
  obtain rfl := Option.some.inj heq
  exact h

variable {input after : Input} {s t : List UInt8}

theorem advance_rest {b : UInt8} (h : input.rest = b :: s) : (input.advance 1).rest = s := by
  simp [Input.advance, h]

/-! ## Blank space and digits -/

theorem dropWhile_append_of_forall {α : Type} {p : α → Bool} {before s : List α}
    (hbefore : ∀ a ∈ before, p a = true) (hs : ∀ a, s.head? = some a → p a = false) :
    (before ++ s).dropWhile p = s := by
  rw [List.dropWhile_append_of_pos hbefore]
  cases s with
  | nil => rfl
  | cons a s => rw [List.dropWhile_cons_of_neg (by simp [hs a rfl])]

theorem head_dropWhile {α : Type} {p : α → Bool} {s : List α} {a : α}
    (h : (s.dropWhile p).head? = some a) : p a = false := by
  have hnot := List.head?_dropWhile_not p s
  rwa [h] at hnot

theorem skipBlankFrom_rest (offset : Nat) (s : List UInt8) :
    (skipBlankFrom offset s).rest = s.dropWhile isBlank := by
  induction s generalizing offset with
  | nil => rfl
  | cons b rest ih =>
      rw [skipBlankFrom, List.dropWhile_cons]
      split
      · exact ih (offset + 1)
      · rfl

theorem skipBlank_rest (input : Input) : input.skipBlank.rest = input.rest.dropWhile isBlank :=
  skipBlankFrom_rest input.offset input.rest

/-- Blank space is passed over, and what comes after it is not blank. -/
theorem skipBlank_sound (input : Input) :
    Solid input.skipBlank.rest ∧
      ∃ before, IsBlank before ∧ input.rest = before ++ input.skipBlank.rest := by
  rw [skipBlank_rest]
  exact ⟨fun _ => head_dropWhile, input.rest.takeWhile isBlank,
    fun _ => List.mem_takeWhile_imp, List.takeWhile_append_dropWhile.symm⟩

/-- All blank space is passed over. -/
theorem skipBlank_complete {before : List UInt8} (hbefore : IsBlank before) (hs : Solid s)
    (h : input.rest = before ++ s) : input.skipBlank.rest = s := by
  rw [skipBlank_rest, h]
  exact dropWhile_append_of_forall hbefore hs

/-- Nothing is left after blank space exactly if there is nothing else. -/
theorem skipBlank_eq_nil_iff : input.skipBlank.rest = [] ↔ IsBlank input.rest := by
  obtain ⟨-, before, hbefore, hsplit⟩ := skipBlank_sound input
  constructor
  · intro h
    rw [hsplit, h, List.append_nil]
    exact hbefore
  · intro h
    exact skipBlank_complete h (by simp [Solid]) (List.append_nil _).symm

theorem skipDigitsFrom_eq (offset : Nat) (s : List UInt8) :
    skipDigitsFrom offset s =
      ⟨offset + (s.takeWhile isDigit).length, s.dropWhile isDigit⟩ := by
  induction s generalizing offset with
  | nil => rfl
  | cons b rest ih =>
      rw [skipDigitsFrom, List.takeWhile_cons, List.dropWhile_cons]
      split
      · rw [ih (offset + 1), List.length_cons]
        congr 1
        omega
      · rfl

/-! ## Numbers -/

theorem isDigits_cons {b : UInt8} (hb : isDigit b = true) {ds : List UInt8}
    (hds : ∀ d ∈ ds, isDigit d = true) : IsDigits (b :: ds) :=
  ⟨List.cons_ne_nil b ds, List.forall_mem_cons.mpr ⟨hb, hds⟩⟩

/-- Digits are passed over, and no digit comes after them. -/
theorem skipDigits_sound {b : UInt8} {rest : List UInt8} (hrest : input.rest = b :: rest)
    (hb : isDigit b = true) :
    ∃ ds, IsDigits ds ∧ ds.head? = some b ∧ input.rest = ds ++ input.skipDigits.rest := by
  rw [Input.skipDigits, skipDigitsFrom_eq, hrest]
  refine ⟨(b :: rest).takeWhile isDigit, ?_, ?_, List.takeWhile_append_dropWhile.symm⟩
  · rw [List.takeWhile_cons_of_pos hb]
    exact isDigits_cons hb fun _ => List.mem_takeWhile_imp
  · rw [List.takeWhile_cons_of_pos hb, List.head?_cons]

/-- All digits are passed over. -/
theorem skipDigits_complete {ds : List UInt8} (hds : IsDigits ds)
    (hs : ∀ b, s.head? = some b → isDigit b = false) (h : input.rest = ds ++ s) :
    input.skipDigits.rest = s := by
  rw [Input.skipDigits, skipDigitsFrom_eq, h]
  exact dropWhile_append_of_forall hds.2 hs

/-- The sign of an exponent, if there is one. -/
def IsSign (s : List UInt8) : Prop := s = [] ∨ s = [0x2B] ∨ s = [0x2D]

/-- The input after the sign of an exponent. -/
def skipSign (input : Input) : Input :=
  match input.rest with
  | 0x2B :: _ | 0x2D :: _ => input.advance 1
  | _ => input

theorem skipSign_sound (input : Input) :
    ∃ sign, IsSign sign ∧ input.rest = sign ++ (skipSign input).rest := by
  unfold skipSign
  split
  · exact ⟨[0x2B], .inr (.inl rfl), by simp [Input.advance, *]⟩
  · exact ⟨[0x2D], .inr (.inr rfl), by simp [Input.advance, *]⟩
  · exact ⟨[], .inl rfl, rfl⟩

theorem skipSign_complete {sign : List UInt8} (hsign : IsSign sign) {b : UInt8}
    (hb : isDigit b = true) (h : input.rest = sign ++ b :: s) :
    (skipSign input).rest = b :: s := by
  unfold skipSign
  rcases hsign with rfl | rfl | rfl
  · rw [List.nil_append] at h
    split
    · rename_i hplus
      obtain ⟨rfl, -⟩ := List.cons.inj (h.symm.trans hplus)
      cases hb
    · rename_i hminus
      obtain ⟨rfl, -⟩ := List.cons.inj (h.symm.trans hminus)
      cases hb
    · exact h
  · simp [h, Input.advance]
  · simp [h, Input.advance]

theorem skipExponent_eq (input : Input) :
    skipExponent input =
      match (skipSign (input.advance 1)).rest with
      | b :: _ =>
          if isDigit b then .ok (skipSign (input.advance 1)).skipDigits
          else ((skipSign (input.advance 1)).advance 1).fail .invalidNumber
      | [] => (skipSign (input.advance 1)).fail .invalidNumber := rfl

theorem skipExponent?_sound (h : skipExponent? input = .ok after) :
    ∃ e, IsExponent e ∧ input.rest = e ++ after.rest := by
  have hexponent : ∀ {letter : UInt8} {rest : List UInt8}, input.rest = letter :: rest →
      letter = 0x65 ∨ letter = 0x45 → skipExponent input = .ok after →
      ∃ e, IsExponent e ∧ input.rest = e ++ after.rest := by
    intro letter rest hrest hletter hskip
    obtain ⟨sign, hsign, hsplit⟩ := skipSign_sound (input.advance 1)
    rw [skipExponent_eq] at hskip
    split at hskip
    · rename_i b tail htail
      split at hskip
      · obtain rfl := Except.ok.inj hskip
        obtain ⟨ds, hds, -, heq⟩ := skipDigits_sound htail ‹_›
        refine ⟨letter :: (sign ++ ds), .inr ⟨letter, sign, ds, rfl, hletter, hsign, hds⟩, ?_⟩
        have hdrop : (input.advance 1).rest = rest := advance_rest hrest
        rw [hrest, ← hdrop, hsplit, heq, List.cons_append, List.append_assoc]
      · cases hskip
    · cases hskip
  unfold skipExponent? at h
  split at h
  · exact hexponent ‹_› (.inl rfl) h
  · exact hexponent ‹_› (.inr rfl) h
  · obtain rfl := Except.ok.inj h
    exact ⟨[], .inl rfl, rfl⟩

theorem skipExponent?_complete {e : List UInt8} (he : IsExponent e) (hends : Ends s)
    (h : input.rest = e ++ s) : ∃ after, skipExponent? input = .ok after ∧ after.rest = s := by
  rcases he with rfl | ⟨letter, sign, ds, rfl, hletter, hsign, hds⟩
  · refine ⟨input, ?_, h⟩
    unfold skipExponent?
    split
    · rename_i hrest
      exact absurd rfl (hends 0x65 (by rw [← List.nil_append s, ← h, hrest]; rfl)).2.2.1
    · rename_i hrest
      exact absurd rfl (hends 0x45 (by rw [← List.nil_append s, ← h, hrest]; rfl)).2.2.2
    · rfl
  · obtain ⟨d, ds, rfl⟩ := List.exists_cons_of_ne_nil hds.1
    have hd : isDigit d = true := hds.2 d List.mem_cons_self
    have hsplit : (input.advance 1).rest = sign ++ d :: (ds ++ s) := by
      simp [Input.advance, h]
    have hrest := skipSign_complete hsign hd hsplit
    refine ⟨(skipSign (input.advance 1)).skipDigits, ?_,
      skipDigits_complete hds (fun b hb => (hends b hb).1) hrest⟩
    have hexponent : skipExponent input = .ok (skipSign (input.advance 1)).skipDigits := by
      rw [skipExponent_eq, hrest]
      simp only [hd, if_true]
    unfold skipExponent?
    rw [h]
    rcases hletter with rfl | rfl <;> exact hexponent

/-- The offset tells whether there was a digit. -/
theorem skipDigits_offset_iff : input.skipDigits.offset = input.offset ↔
    ∀ b, input.rest.head? = some b → isDigit b = false := by
  rw [Input.skipDigits, skipDigitsFrom_eq]
  cases hrest : input.rest with
  | nil => simp
  | cons b rest =>
      rw [List.takeWhile_cons]
      split <;> simp_all

/-- What is passed over after the whole part of a number is its fraction and its exponent. -/
theorem skipAfterWhole_sound (h : skipAfterWhole input = .ok after) :
    ∃ f e, IsFraction f ∧ IsExponent e ∧ input.rest = f ++ (e ++ after.rest) := by
  unfold skipAfterWhole at h
  split at h
  · rename_i rest hrest
    dsimp only at h
    split at h
    · cases h
    · rename_i hmoved
      rw [skipDigits_offset_iff] at hmoved
      obtain ⟨e, he, heq⟩ := skipExponent?_sound h
      have hdrop : (input.advance 1).rest = rest := advance_rest hrest
      cases hdigits : rest with
      | nil => simp [hdrop, hdigits] at hmoved
      | cons b tail =>
          have hb : isDigit b = true := by simpa [hdrop, hdigits] using hmoved
          obtain ⟨ds, hds, -, hsplit⟩ := skipDigits_sound (hdrop.trans hdigits) hb
          refine ⟨0x2E :: ds, e, .inr ⟨ds, rfl, hds⟩, he, ?_⟩
          rw [hrest, ← hdrop, hsplit, heq, List.cons_append]
  · obtain ⟨e, he, heq⟩ := skipExponent?_sound h
    exact ⟨[], e, .inl rfl, he, heq⟩

/-- An exponent and what comes after a number begin with no digit. -/
theorem head_exponent_not_digit {e : List UInt8} (he : IsExponent e) (hends : Ends s) (b : UInt8)
    (hb : (e ++ s).head? = some b) : isDigit b = false ∧ b ≠ 0x2E := by
  rcases he with rfl | ⟨letter, sign, ds, rfl, rfl | rfl, -, -⟩
  · exact ⟨(hends b hb).1, (hends b hb).2.1⟩
  · obtain rfl := Option.some.inj hb
    exact ⟨rfl, by decide⟩
  · obtain rfl := Option.some.inj hb
    exact ⟨rfl, by decide⟩

theorem skipAfterWhole_complete {f e : List UInt8} (hf : IsFraction f) (he : IsExponent e)
    (hends : Ends s) (h : input.rest = f ++ (e ++ s)) :
    ∃ after, skipAfterWhole input = .ok after ∧ after.rest = s := by
  have hhead := head_exponent_not_digit he hends
  rcases hf with rfl | ⟨ds, rfl, hds⟩
  · have hplain : skipAfterWhole input = skipExponent? input := by
      unfold skipAfterWhole
      split
      · rename_i hrest
        exact absurd rfl (hhead 0x2E (by rw [← List.nil_append (e ++ s), ← h, hrest]; rfl)).2
      · rfl
    rw [hplain]
    exact skipExponent?_complete he hends h
  · have hdrop : (input.advance 1).rest = ds ++ (e ++ s) := advance_rest h
    have hrest := skipDigits_complete hds (fun b hb => (hhead b hb).1) hdrop
    have hmoved : (input.advance 1).skipDigits.offset ≠ (input.advance 1).offset := by
      obtain ⟨d, ds, rfl⟩ := List.exists_cons_of_ne_nil hds.1
      rw [Ne, skipDigits_offset_iff, hdrop]
      intro hnone
      cases (hds.2 d List.mem_cons_self).symm.trans (hnone d rfl)
    have hskip : skipAfterWhole input = skipExponent? (input.advance 1).skipDigits := by
      unfold skipAfterWhole
      rw [h]
      exact if_neg hmoved
    rw [hskip]
    exact skipExponent?_complete he hends hrest

/-- What is passed over as a number is one. -/
theorem skipNumber_sound (h : skipNumber input = .ok after) :
    ∃ v, IsUnsigned v ∧ input.rest = v ++ after.rest := by
  -- the whole part leads to what comes after it
  have hwhole : ∃ (w : List UInt8) (next : Input), IsWhole w ∧ input.rest = w ++ next.rest ∧
      skipAfterWhole next = .ok after := by
    unfold skipNumber at h
    split at h
    · cases h
    · rename_i rest hrest
      refine ⟨[0x30], ⟨input.offset + 1, rest⟩, .inl rfl, hrest, ?_⟩
      dsimp only at h
      split at h
      · split at h
        · cases h
        · exact h
      · exact h
    · rename_i b rest hzero hrest
      split at h
      · obtain ⟨ds, hds, hhead, hsplit⟩ := skipDigits_sound hrest ‹_›
        refine ⟨ds, _, .inr ⟨hds, ?_⟩, hsplit, h⟩
        rw [hhead]
        rintro heq
        obtain rfl := Option.some.inj heq
        exact hzero rfl
      · cases h
  obtain ⟨w, next, hw, hrest, hafter⟩ := hwhole
  obtain ⟨f, e, hf, he, heq⟩ := skipAfterWhole_sound hafter
  refine ⟨w ++ (f ++ e), ⟨w, f, e, rfl, hw, hf, he⟩, ?_⟩
  rw [hrest, heq, List.append_assoc, List.append_assoc]

/-- A number is passed over. -/
theorem skipNumber_complete {v : List UInt8} (hv : IsUnsigned v) (hends : Ends s)
    (h : input.rest = v ++ s) : ∃ after, skipNumber input = .ok after ∧ after.rest = s := by
  obtain ⟨w, f, e, rfl, hw, hf, he⟩ := hv
  have hhead : ∀ b, (f ++ (e ++ s)).head? = some b → isDigit b = false := by
    rcases hf with rfl | ⟨ds, rfl, hds⟩
    · exact fun b hb => (head_exponent_not_digit he hends b hb).1
    · rintro b hb
      obtain rfl := Option.some.inj hb
      rfl
  rw [List.append_assoc, List.append_assoc] at h
  rcases hw with rfl | ⟨hds, hzero⟩
  · have hskip : skipNumber input =
        skipAfterWhole ⟨input.offset + 1, f ++ (e ++ s)⟩ := by
      unfold skipNumber
      rw [h]
      simp only [List.singleton_append]
      split
      · rename_i b rest hrest
        exact if_neg (by simp [hhead b (by rw [hrest]; rfl)])
      · rename_i hrest
        rw [hrest]
    rw [hskip]
    exact skipAfterWhole_complete hf he hends rfl
  · obtain ⟨d, ds, rfl⟩ := List.exists_cons_of_ne_nil hds.1
    have hd : isDigit d = true := hds.2 d List.mem_cons_self
    have hskip : skipNumber input = skipAfterWhole input.skipDigits := by
      unfold skipNumber
      split
      · rename_i hrest
        cases h.symm.trans hrest
      · rename_i hrest
        obtain ⟨rfl, -⟩ := List.cons.inj (h.symm.trans hrest)
        exact absurd rfl hzero
      · rename_i hrest
        obtain ⟨rfl, -⟩ := List.cons.inj (h.symm.trans hrest)
        rw [if_pos hd]
    rw [hskip]
    exact skipAfterWhole_complete hf he hends (skipDigits_complete hds hhead h)

/-! ## Literals -/

theorem expect_sound {letters : List UInt8} (h : input.expect letters = .ok after) :
    input.rest = letters ++ after.rest := by
  induction letters generalizing input with
  | nil =>
      obtain rfl := Except.ok.inj h
      rfl
  | cons letter letters ih =>
      unfold Input.expect at h
      split at h
      · cases h
      · rename_i b rest hrest
        dsimp only at h
        split at h
        · subst b
          rw [hrest, List.cons_append, ← ih h]
        · cases h

theorem expect_complete {letters : List UInt8} (h : input.rest = letters ++ s) :
    ∃ after, input.expect letters = .ok after ∧ after.rest = s := by
  induction letters generalizing input with
  | nil => exact ⟨input, rfl, h⟩
  | cons letter letters ih =>
      have hletters : (⟨input.offset + 1, letters ++ s⟩ : Input).rest = letters ++ s := rfl
      obtain ⟨after, hexpect, hafter⟩ := ih hletters
      refine ⟨after, ?_, hafter⟩
      unfold Input.expect
      rw [h]
      simp only [List.cons_append, if_true, hexpect]

/-! ## Escapes -/

theorem simpleEscape_eq_some_iff {b : UInt8} {c : Char} :
    simpleEscape? b = some c ↔ (b, c) ∈ letters := by
  constructor
  · intro h
    unfold simpleEscape? at h
    split_ifs at h <;> subst b <;> obtain rfl := Option.some.inj h <;> simp [letters]
  · intro h
    simp only [letters, List.mem_cons, Prod.mk.injEq, List.not_mem_nil, or_false] at h
    rcases h with ⟨rfl, rfl⟩ | ⟨rfl, rfl⟩ | ⟨rfl, rfl⟩ | ⟨rfl, rfl⟩ | ⟨rfl, rfl⟩ | ⟨rfl, rfl⟩ |
      ⟨rfl, rfl⟩ | ⟨rfl, rfl⟩ <;> rfl

/-- The letter of a code is not that of a short escape. -/
theorem ne_code_of_letter {b : UInt8} {c : Char} (h : (b, c) ∈ letters) : b ≠ 0x75 := by
  rintro rfl
  rw [← simpleEscape_eq_some_iff] at h
  cases h

theorem hexEscape_sound {n : Nat} (h : hexEscape input = .ok (n, after)) :
    ∃ digits, IsCode digits n ∧ input.rest = digits ++ after.rest := by
  unfold hexEscape at h
  split at h
  · rename_i w x y z rest hrest
    dsimp only at h
    split at h
    · rename_i w' x' y' z' hw hx hy hz
      obtain ⟨rfl, rfl⟩ := Prod.mk.inj (Except.ok.inj h)
      refine ⟨[w, x, y, z], ⟨w, x, y, z, w', x', y', z', rfl, hw, hx, hy, hz, rfl⟩, ?_⟩
      simp [Input.advance, hrest]
    · cases h
  · cases h

theorem hexEscape_complete {digits : List UInt8} {n : Nat} (hcode : IsCode digits n)
    (h : input.rest = digits ++ s) :
    ∃ after, hexEscape input = .ok (n, after) ∧ after.rest = s := by
  obtain ⟨w, x, y, z, w', x', y', z', rfl, hw, hx, hy, hz, rfl⟩ := hcode
  refine ⟨input.advance 4, ?_, by simp [Input.advance, h]⟩
  unfold hexEscape
  rw [h]
  simp only [List.cons_append, List.nil_append, hw, hx, hy, hz]

theorem skipEscape_sound (h : skipEscape input = .ok after) :
    ∃ escaped, IsEscape escaped ∧ input.rest = escaped ++ after.rest := by
  unfold skipEscape at h
  split at h
  · cases h
  · rename_i b rest hrest
    have hdrop : (input.advance 1).rest = rest := advance_rest hrest
    dsimp only at h
    split at h
    · subst b
      obtain ⟨⟨n, next⟩, hhex, rfl⟩ := map_eq_ok_iff.mp h
      obtain ⟨digits, hcode, heq⟩ := hexEscape_sound hhex
      exact ⟨0x75 :: digits, .code hcode, by rw [hrest, ← hdrop, heq, List.cons_append]⟩
    · split at h
      · rename_i hsome
        obtain ⟨c, hc⟩ := Option.isSome_iff_exists.mp hsome
        obtain rfl := Except.ok.inj h
        exact ⟨[b], .letter (simpleEscape_eq_some_iff.mp hc),
          by rw [hrest, ← hdrop, List.singleton_append]⟩
      · cases h

theorem skipEscape_complete {escaped : List UInt8} (hescaped : IsEscape escaped)
    (h : input.rest = escaped ++ s) : ∃ after, skipEscape input = .ok after ∧ after.rest = s := by
  cases hescaped with
  | letter hb =>
      refine ⟨input.advance 1, ?_, advance_rest h⟩
      unfold skipEscape
      rw [h]
      simp only [List.cons_append, if_neg (ne_code_of_letter hb), simpleEscape_eq_some_iff.mpr hb,
        Option.isSome_some, if_true]
  | code hcode =>
      obtain ⟨after, hhex, hafter⟩ := hexEscape_complete hcode (advance_rest h)
      refine ⟨after, ?_, hafter⟩
      unfold skipEscape
      rw [h]
      simp only [List.cons_append, if_true, hhex]
      rfl

/-! ## Passing over a text -/

theorem skipTextBytes_sound {fuel : Nat} (h : skipTextBytes fuel input = .ok after) :
    ∃ body, IsText body ∧ input.rest = body ++ 0x22 :: after.rest := by
  induction fuel generalizing input with
  | zero => cases h
  | succ fuel ih =>
      unfold skipTextBytes at h
      split at h
      · cases h
      · rename_i b rest hrest
        dsimp only at h
        have hdrop : (input.advance 1).rest = rest := advance_rest hrest
        split at h
        · subst b
          obtain rfl := Except.ok.inj h
          exact ⟨[], .nil, by rw [hrest, hdrop, List.nil_append]⟩
        · split at h
          · subst b
            obtain ⟨next, hescape, h⟩ := bind_eq_ok_iff.mp h
            obtain ⟨escaped, hescaped, hnext⟩ := skipEscape_sound hescape
            obtain ⟨body, hbody, heq⟩ := ih h
            refine ⟨_, .escape hescaped hbody, ?_⟩
            rw [hrest, ← hdrop, hnext, heq, List.cons_append, List.append_assoc]
          · split at h
            · cases h
            · obtain ⟨body, hbody, heq⟩ := ih h
              refine ⟨b :: body, .plain ⟨‹_›, ‹_›, ‹_›⟩ hbody, ?_⟩
              rw [hrest, ← hdrop, heq, List.cons_append]

theorem skipTextBytes_complete {body : List UInt8} (hbody : IsText body) {fuel : Nat}
    (hfuel : body.length < fuel) (h : input.rest = body ++ 0x22 :: s) :
    ∃ after, skipTextBytes fuel input = .ok after ∧ after.rest = s := by
  -- one step is taken for every part, which has a byte at least
  induction hbody generalizing input fuel with
  | nil =>
      obtain ⟨fuel, rfl⟩ := Nat.exists_eq_succ_of_ne_zero (Nat.ne_zero_of_lt hfuel)
      refine ⟨input.advance 1, ?_, advance_rest h⟩
      rw [skipTextBytes, h]
      rfl
  | @plain b body hb _ ih =>
      obtain ⟨fuel, rfl⟩ := Nat.exists_eq_succ_of_ne_zero (Nat.ne_zero_of_lt hfuel)
      obtain ⟨after, hskip, hafter⟩ := ih (Nat.lt_of_succ_lt_succ hfuel) (advance_rest h)
      refine ⟨after, ?_, hafter⟩
      rw [skipTextBytes, h]
      simp only [List.cons_append, if_neg hb.1, if_neg hb.2.1, if_neg hb.2.2, hskip]
  | @escape escaped body hescaped _ ih =>
      obtain ⟨fuel, rfl⟩ := Nat.exists_eq_succ_of_ne_zero (Nat.ne_zero_of_lt hfuel)
      obtain ⟨next, hescape, hnext⟩ := skipEscape_complete hescaped
        ((advance_rest h).trans (List.append_assoc _ _ _))
      have hlt : body.length < fuel := by
        rw [List.length_cons, List.length_append] at hfuel
        omega
      obtain ⟨after, hskip, hafter⟩ := ih hlt hnext
      refine ⟨after, ?_, hafter⟩
      rw [skipTextBytes, h]
      simp only [List.cons_append, hescape]
      exact hskip

/-- What is passed over as a text is one, with its closing quote. -/
theorem skipText_sound (h : skipText input = .ok after) :
    ∃ body, IsText body ∧ input.rest = body ++ 0x22 :: after.rest :=
  skipTextBytes_sound h

/-- A text is passed over up to its closing quote. -/
theorem skipText_complete {body : List UInt8} (hbody : IsText body)
    (h : input.rest = body ++ 0x22 :: s) :
    ∃ after, skipText input = .ok after ∧ after.rest = s := by
  refine skipTextBytes_complete hbody ?_ h
  rw [h, List.length_append]
  omega

/-! ## Reading a text -/

theorem pairByte_sound {b : UInt8} (h : pairByte input b = .ok after) :
    input.rest = b :: after.rest := by
  unfold pairByte at h
  split at h
  · cases h
  · rename_i c rest hrest
    split at h
    · subst c
      obtain rfl := Except.ok.inj h
      simp [Input.advance, hrest]
    · cases h

theorem pairByte_complete {b : UInt8} (h : input.rest = b :: s) :
    ∃ after, pairByte input b = .ok after ∧ after.rest = s := by
  refine ⟨input.advance 1, ?_, advance_rest h⟩
  unfold pairByte
  rw [h]
  exact if_pos rfl

/-- What is read after the letter of a code stands for a character, with a pair of surrogates if it
must. -/
theorem unicodeEscape_sound {c : Char} (h : unicodeEscape input = .ok (c, after)) :
    ∃ escaped, Escapes (0x75 :: escaped) c ∧ input.rest = escaped ++ after.rest := by
  unfold unicodeEscape at h
  obtain ⟨⟨m, next⟩, hfirst, h⟩ := bind_eq_ok_iff.mp h
  obtain ⟨high, hhigh, heq⟩ := hexEscape_sound hfirst
  simp only at h
  split at h
  · cases h
  · split at h
    · obtain ⟨next', hslash, h⟩ := bind_eq_ok_iff.mp h
      obtain ⟨next'', hletter, h⟩ := bind_eq_ok_iff.mp h
      obtain ⟨⟨n, last⟩, hsecond, h⟩ := bind_eq_ok_iff.mp h
      obtain ⟨low, hlow, heq'⟩ := hexEscape_sound hsecond
      simp only at h
      split at h
      · obtain ⟨rfl, rfl⟩ := Prod.mk.inj (Except.ok.inj h)
        refine ⟨_, .pair hhigh hlow ‹_› ‹_›, ?_⟩
        rw [heq, pairByte_sound hslash, pairByte_sound hletter, heq', List.append_assoc,
          List.cons_append, List.cons_append]
      · cases h
    · obtain ⟨rfl, rfl⟩ := Prod.mk.inj (Except.ok.inj h)
      exact ⟨high, .code hhigh (by omega), heq⟩

/-- What is read after a backslash stands for a character. -/
theorem escape_sound {c : Char} (h : escape input = .ok (c, after)) :
    ∃ escaped, Escapes escaped c ∧ input.rest = escaped ++ after.rest := by
  unfold escape at h
  split at h
  · cases h
  · rename_i b rest hrest
    have hdrop : (input.advance 1).rest = rest := advance_rest hrest
    dsimp only at h
    split at h
    · subst b
      obtain ⟨escaped, hescaped, heq⟩ := unicodeEscape_sound h
      exact ⟨0x75 :: escaped, hescaped, by rw [hrest, ← hdrop, heq, List.cons_append]⟩
    · split at h
      · rename_i hc
        obtain ⟨rfl, rfl⟩ := Prod.mk.inj (Except.ok.inj h)
        exact ⟨[b], .letter (simpleEscape_eq_some_iff.mp hc),
          by rw [hrest, ← hdrop, List.singleton_append]⟩
      · cases h

/-- What stands for a character after a backslash is read as that character. -/
theorem escape_complete {escaped : List UInt8} {c : Char} (hescaped : Escapes escaped c)
    (h : input.rest = escaped ++ s) : ∃ after, escape input = .ok (c, after) ∧ after.rest = s := by
  have hcode : ∀ {rest : List UInt8}, input.rest = 0x75 :: rest →
      escape input = unicodeEscape (input.advance 1) ∧ (input.advance 1).rest = rest := by
    intro rest hrest
    unfold escape
    rw [hrest]
    exact ⟨if_pos rfl, advance_rest hrest⟩
  cases hescaped with
  | letter hb =>
      refine ⟨input.advance 1, ?_, advance_rest h⟩
      unfold escape
      rw [h]
      simp only [List.cons_append, if_neg (ne_code_of_letter hb), simpleEscape_eq_some_iff.mpr hb]
  | code hdigits hn =>
      obtain ⟨hescape, hrest⟩ := hcode h
      obtain ⟨after, hhex, hafter⟩ := hexEscape_complete hdigits hrest
      refine ⟨after, hescape.trans (bind_eq_ok_iff.mpr ⟨_, hhex, ?_⟩), hafter⟩
      simp only
      rw [if_neg (by omega), if_neg (by omega)]
      rfl
  | pair hhigh hlow hm hn =>
      rw [List.cons_append, List.append_assoc, List.cons_append, List.cons_append] at h
      obtain ⟨hescape, hrest⟩ := hcode h
      obtain ⟨next, hfirst, hnext⟩ := hexEscape_complete hhigh hrest
      obtain ⟨next', hslash, hnext'⟩ := pairByte_complete hnext
      obtain ⟨next'', hletter, hnext''⟩ := pairByte_complete hnext'
      obtain ⟨after, hsecond, hafter⟩ := hexEscape_complete hlow hnext''
      refine ⟨after, hescape.trans (bind_eq_ok_iff.mpr ⟨_, hfirst, ?_⟩), hafter⟩
      simp only
      rw [if_neg (by omega), if_pos hm]
      refine bind_eq_ok_iff.mpr ⟨_, hslash, bind_eq_ok_iff.mpr ⟨_, hletter,
        bind_eq_ok_iff.mpr ⟨_, hsecond, ?_⟩⟩⟩
      simp only
      rw [if_pos hn]
      rfl

theorem encode_singleton (c : Char) :
    Utf8.encode (String.singleton c) = String.utf8EncodeChar c := by
  rw [Utf8.encode_eq_flatMap]
  simp

/-- What is read up to a closing quote denotes characters. -/
theorem textBytes_sound {fuel : Nat} {done bytes : List UInt8}
    (h : textBytes fuel done input = .ok (bytes, after)) :
    ∃ body meaning, Denotes body meaning ∧ bytes = done.reverse ++ meaning ∧
      input.rest = body ++ 0x22 :: after.rest := by
  induction fuel generalizing input done with
  | zero => cases h
  | succ fuel ih =>
      unfold textBytes at h
      split at h
      · cases h
      · rename_i b rest hrest
        dsimp only at h
        have hdrop : (input.advance 1).rest = rest := advance_rest hrest
        split at h
        · subst b
          obtain ⟨rfl, rfl⟩ := Prod.mk.inj (Except.ok.inj h)
          exact ⟨[], [], .nil, (List.append_nil _).symm, by rw [hrest, hdrop, List.nil_append]⟩
        · split at h
          · subst b
            obtain ⟨⟨c, next⟩, hescape, h⟩ := bind_eq_ok_iff.mp h
            obtain ⟨escaped, hescaped, hnext⟩ := escape_sound hescape
            obtain ⟨body, meaning, hbody, rfl, heq⟩ := ih h
            refine ⟨_, _, .escape hescaped hbody, ?_, ?_⟩
            · rw [encode_singleton, List.reverse_append, List.reverse_reverse, List.append_assoc]
            · rw [hrest, ← hdrop, hnext, heq, List.cons_append, List.append_assoc]
          · split at h
            · cases h
            · obtain ⟨body, meaning, hbody, rfl, heq⟩ := ih h
              refine ⟨b :: body, b :: meaning, .plain ⟨‹_›, ‹_›, ‹_›⟩ hbody, ?_, ?_⟩
              · rw [List.reverse_cons, List.append_assoc, List.singleton_append]
              · rw [hrest, ← hdrop, heq, List.cons_append]

/-- What denotes characters is read up to its closing quote. -/
theorem textBytes_complete {body meaning : List UInt8} (hbody : Denotes body meaning) {fuel : Nat}
    (done : List UInt8) (hfuel : body.length < fuel) (h : input.rest = body ++ 0x22 :: s) :
    ∃ after, textBytes fuel done input = .ok (done.reverse ++ meaning, after) ∧
      after.rest = s := by
  -- one step is taken for every part, which has a byte at least
  induction hbody generalizing input fuel done with
  | nil =>
      obtain ⟨fuel, rfl⟩ := Nat.exists_eq_succ_of_ne_zero (Nat.ne_zero_of_lt hfuel)
      refine ⟨input.advance 1, ?_, advance_rest h⟩
      rw [textBytes, h, List.append_nil]
      rfl
  | @plain b body meaning hb _ ih =>
      obtain ⟨fuel, rfl⟩ := Nat.exists_eq_succ_of_ne_zero (Nat.ne_zero_of_lt hfuel)
      obtain ⟨after, hread, hafter⟩ := ih (b :: done) (Nat.lt_of_succ_lt_succ hfuel)
        (advance_rest h)
      refine ⟨after, ?_, hafter⟩
      rw [textBytes, h]
      simp only [List.cons_append, if_neg hb.1, if_neg hb.2.1, if_neg hb.2.2, hread]
      rw [List.reverse_cons, List.append_assoc, List.singleton_append]
  | @escape escaped body meaning c hescaped _ ih =>
      obtain ⟨fuel, rfl⟩ := Nat.exists_eq_succ_of_ne_zero (Nat.ne_zero_of_lt hfuel)
      obtain ⟨next, hescape, hnext⟩ := escape_complete hescaped
        ((advance_rest h).trans (List.append_assoc _ _ _))
      have hlt : body.length < fuel := by
        rw [List.length_cons, List.length_append] at hfuel
        omega
      obtain ⟨after, hread, hafter⟩ := ih ((String.utf8EncodeChar c).reverse ++ done) hlt hnext
      refine ⟨after, ?_, hafter⟩
      have hstep : textBytes (fuel + 1) done input =
          textBytes fuel ((String.utf8EncodeChar c).reverse ++ done) next := by
        rw [textBytes, h]
        simp only [List.cons_append, hescape, ← encode_singleton c]
        rfl
      rw [hstep, hread, List.reverse_append, List.reverse_reverse, List.append_assoc]

/-- A text that is read is denoted up to its closing quote. -/
theorem textBody_sound {name : String} (h : textBody input = .ok (name, after)) :
    ∃ body, Denotes body (Utf8.encode name) ∧ input.rest = body ++ 0x22 :: after.rest := by
  unfold textBody at h
  obtain ⟨⟨bytes, last⟩, hread, h⟩ := bind_eq_ok_iff.mp h
  obtain ⟨body, meaning, hbody, heq, hrest⟩ := textBytes_sound hread
  simp only at h
  split at h
  · rename_i text hdecode
    obtain ⟨rfl, rfl⟩ := Prod.mk.inj (Except.ok.inj h)
    have hbytes : bytes = Utf8.encode text := Utf8.decode_eq_some_iff.mp hdecode
    refine ⟨body, ?_, hrest⟩
    rw [← hbytes, heq]
    exact hbody
  · cases h

/-- A text that is denoted is read. -/
theorem textBody_complete {name : String} {body : List UInt8}
    (hbody : Denotes body (Utf8.encode name)) (h : input.rest = body ++ 0x22 :: s) :
    ∃ after, textBody input = .ok (name, after) ∧ after.rest = s := by
  obtain ⟨after, hread, hafter⟩ := textBytes_complete hbody []
    (show body.length < input.rest.length + 1 by rw [h, List.length_append]; omega) h
  refine ⟨after, bind_eq_ok_iff.mpr ⟨_, hread, ?_⟩, hafter⟩
  have hdecode : Utf8.decode? (Utf8.encode name) = some name := Utf8.decode_eq_some_iff.mpr rfl
  simp only [List.reverse_nil, List.nil_append, hdecode]
  rfl

end GaleraProxy.Json
