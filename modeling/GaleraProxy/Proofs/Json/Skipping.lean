import GaleraProxy.Proofs.Json.Rendering
import GaleraProxy.Proofs.Json.Scanning

/-!
# Exactly the values of the grammar are passed over

A value is passed over with a stack of the containers that are open. `Closes` says what is left of
them: the rest of every one of them, the innermost first. `skipValue_sound` says that what was
passed over is a value, and `skipValue_complete` that a value is passed over if what comes after it
does not go on with a number.
-/

namespace GaleraProxy.Json

open Grammar

variable {input after : Input} {s t : List UInt8} {stack stack' : List Container} {c : Container}

/-- What is left of the open containers, followed by `t`. -/
inductive Closes : List Container → List UInt8 → List UInt8 → Prop where
  | done {t : List UInt8} : Closes [] t t
  | close {c : Container} {stack : List Container} {before s t : List UInt8}
      (hbefore : IsBlank before) (h : Closes stack s t) :
      Closes (c :: stack) (before ++ c.closing :: s) t
  | next {c : Container} {stack : List Container} {before between text v s t : List UInt8}
      (hbefore : IsBlank before) (hbetween : IsBlank between) (htext : Spells c v text)
      (hv : IsValue v) (h : Closes (c :: stack) s t) :
      Closes (c :: stack) (before ++ 0x2C :: (between ++ (text ++ s))) t

/-- What is left of the innermost container are further items and its end. -/
theorem closes_cons_iff : Closes (c :: stack) s t ↔ ∃ vs body rest, (∀ v ∈ vs, IsValue v) ∧
    Series (Spells c) false vs body ∧ s = body ++ c.closing :: rest ∧ Closes stack rest t := by
  constructor
  · intro h
    generalize hopen : c :: stack = opened at h
    induction h with
    | done => cases hopen
    | close hbefore h =>
        obtain ⟨rfl, rfl⟩ := List.cons.inj hopen
        exact ⟨[], _, _, by simp, .nil hbefore, rfl, h⟩
    | next hbefore hbetween htext hv h ih =>
        obtain ⟨rfl, rfl⟩ := List.cons.inj hopen
        obtain ⟨vs, body, rest, hvs, hseries, rfl, hrest⟩ := ih rfl
        refine ⟨_ :: vs, _, rest, List.forall_mem_cons.mpr ⟨hv, hvs⟩,
          .next hbefore hbetween htext hseries, ?_, hrest⟩
        simp only [List.append_assoc, List.cons_append]
  · rintro ⟨vs, body, rest, hvs, hseries, rfl, hrest⟩
    generalize hfirst : false = first at hseries
    induction hseries with
    | nil hblank => exact .close hblank hrest
    | first => cases hfirst
    | next hbefore hbetween htext hseries ih =>
        obtain ⟨hv, hvs⟩ := List.forall_mem_cons.mp hvs
        simp only [List.append_assoc, List.cons_append]
        exact .next hbefore hbetween htext hv (ih hvs hfirst)

/-- Blank space does not go on with a number. -/
theorem ends_blank {before : List UInt8} (hbefore : IsBlank before) (hs : Ends s) :
    Ends (before ++ s) := by
  cases before with
  | nil => exact hs
  | cons d before =>
      intro other hother
      obtain rfl := Option.some.inj hother
      have hd := hbefore d List.mem_cons_self
      simp only [isBlank, Bool.or_eq_true, beq_iff_eq] at hd
      rcases hd with ((rfl | rfl) | rfl) | rfl <;> decide

theorem ends_comma (s : List UInt8) : Ends (0x2C :: s) := (Follows.comma s).ends

theorem ends_closing (c : Container) (s : List UInt8) : Ends (c.closing :: s) := by
  cases c with
  | list => exact (Follows.bracket s).ends
  | object => exact (Follows.brace s).ends

/-- What is left of open containers does not go on with a number. -/
theorem Closes.ends (h : Closes stack s t) (ht : Ends t) : Ends s := by
  cases h with
  | done => exact ht
  | close hbefore => exact ends_blank hbefore (ends_closing _ _)
  | next hbefore => exact ends_blank hbefore (ends_comma _)

/-- Further items and the end of their container do not go on with a number. -/
theorem series_ends {α : Type} {Spells : α → List UInt8 → Prop} {as : List α}
    (h : Series Spells false as s) (c : Container) : Ends (s ++ c.closing :: t) := by
  cases h with
  | nil hblank => exact ends_blank hblank (ends_closing c t)
  | next hbefore =>
      rw [List.append_assoc]
      exact ends_blank hbefore (ends_comma _)

/-! ## One token -/

/-- Pass over a value without parts or over what opens a container; the input stands at it. The
result says whether an item came to its end, and which containers are open. -/
def skipToken (stack : List Container) (input : Input) :
    Except Error (Bool × List Container × Input) :=
  match input.rest with
  | [] => input.failNext .eofInValue
  | b :: _ =>
      let next := input.advance 1
      if b = 0x6E then (next.expect [0x75, 0x6C, 0x6C]).map (true, stack, ·)
      else if b = 0x74 then (next.expect [0x72, 0x75, 0x65]).map (true, stack, ·)
      else if b = 0x66 then (next.expect [0x61, 0x6C, 0x73, 0x65]).map (true, stack, ·)
      else if b = 0x2D then (skipNumber next).map (true, stack, ·)
      else if isDigit b then (skipNumber input).map (true, stack, ·)
      else if b = 0x22 then (skipText next).map (true, stack, ·)
      else if b = 0x5B then .ok (false, .list :: stack, next)
      else if b = 0x7B then .ok (false, .object :: stack, next)
      else input.failNext .expectedValue

/-- What a token is, with the containers that are open after it. -/
inductive Token (stack : List Container) :
    List UInt8 → Bool → List Container → List UInt8 → Prop where
  | scalar {v t : List UInt8} (h : IsScalar v) : Token stack (v ++ t) true stack t
  | opening (c : Container) {t : List UInt8} : Token stack (opening c :: t) false (c :: stack) t

theorem skipToken_sound {afterItem : Bool}
    (h : skipToken stack input = .ok (afterItem, stack', after)) :
    Token stack input.rest afterItem stack' after.rest := by
  have hscalar : ∀ {result : Except Error Input},
      result.map (true, stack, ·) = .ok (afterItem, stack', after) →
      (∀ {next}, result = .ok next → ∃ v, IsScalar v ∧ input.rest = v ++ next.rest) →
      Token stack input.rest afterItem stack' after.rest := by
    intro result hresult hvalue
    obtain ⟨next, hnext, heq⟩ := map_eq_ok_iff.mp hresult
    obtain ⟨rfl, rfl, rfl⟩ := heq
    obtain ⟨v, hv, hsplit⟩ := hvalue hnext
    rw [hsplit]
    exact .scalar hv
  unfold skipToken at h
  split at h
  · cases h
  · rename_i b rest hrest
    have hdrop : (input.advance 1).rest = rest := advance_rest hrest
    dsimp only at h
    split_ifs at h with hnull htrue hfalse hminus hdigit hquote hlist hobject
    · exact hscalar h fun hexpect =>
        ⟨_, .null, by rw [hrest, hnull, ← hdrop, expect_sound hexpect]; rfl⟩
    · exact hscalar h fun hexpect =>
        ⟨_, .true, by rw [hrest, htrue, ← hdrop, expect_sound hexpect]; rfl⟩
    · exact hscalar h fun hexpect =>
        ⟨_, .false, by rw [hrest, hfalse, ← hdrop, expect_sound hexpect]; rfl⟩
    · refine hscalar h fun hskip => ?_
      obtain ⟨v, hv, heq⟩ := skipNumber_sound hskip
      exact ⟨0x2D :: v, .number (.inr ⟨v, rfl, hv⟩), by rw [hrest, hminus, ← hdrop, heq]; rfl⟩
    · refine hscalar h fun hskip => ?_
      obtain ⟨v, hv, heq⟩ := skipNumber_sound hskip
      exact ⟨v, .number (.inl hv), heq⟩
    · refine hscalar h fun hskip => ?_
      obtain ⟨v, hv, heq⟩ := skipText_sound hskip
      exact ⟨_, .text hv, by rw [hrest, hquote, ← hdrop, heq]; simp⟩
    · obtain ⟨rfl, rfl, rfl⟩ := Except.ok.inj h
      rw [hrest, hlist, hdrop]
      exact .opening .list
    · obtain ⟨rfl, rfl, rfl⟩ := Except.ok.inj h
      rw [hrest, hobject, hdrop]
      exact .opening .object
    · cases h

/-- A number begins with a sign or a digit. -/
theorem unsigned_begins {v : List UInt8} (h : IsUnsigned v) :
    ∃ b bs, v = b :: bs ∧ isDigit b = true := by
  obtain ⟨w, f, e, rfl, rfl | ⟨hds, -⟩, -, -⟩ := h
  · exact ⟨0x30, _, rfl, rfl⟩
  · obtain ⟨d, ds, rfl⟩ := List.exists_cons_of_ne_nil hds.1
    exact ⟨d, _, rfl, hds.2 d List.mem_cons_self⟩

theorem skipToken_scalar {v : List UInt8} (hv : IsScalar v) (ht : Ends t)
    (h : input.rest = v ++ t) :
    ∃ after, skipToken stack input = .ok (true, stack, after) ∧ after.rest = t := by
  have hmap : ∀ result : Except Error Input, skipToken stack input =
      result.map (true, stack, ·) → (∃ next, result = .ok next ∧ next.rest = t) →
      ∃ after, skipToken stack input = .ok (true, stack, after) ∧ after.rest = t := by
    rintro result hresult ⟨next, rfl, hnext⟩
    exact ⟨next, hresult, hnext⟩
  cases hv with
  | null =>
      refine hmap ((input.advance 1).expect [0x75, 0x6C, 0x6C]) ?_
        (expect_complete (advance_rest h))
      unfold skipToken
      rw [h]
      rfl
  | true =>
      refine hmap ((input.advance 1).expect [0x72, 0x75, 0x65]) ?_
        (expect_complete (advance_rest h))
      unfold skipToken
      rw [h]
      rfl
  | false =>
      refine hmap ((input.advance 1).expect [0x61, 0x6C, 0x73, 0x65]) ?_
        (expect_complete (advance_rest h))
      unfold skipToken
      rw [h]
      rfl
  | number hn =>
      rcases hn with hn | ⟨unsigned, rfl, hn⟩
      · obtain ⟨b, bs, rfl, hb⟩ := unsigned_begins hn
        have hne : ∀ other, isDigit other = false → b ≠ other := fun _ => ne_of_isDigit hb
        refine hmap (skipNumber input) ?_ (skipNumber_complete hn ht h)
        unfold skipToken
        rw [h]
        simp only [List.cons_append, if_neg (hne 0x6E rfl), if_neg (hne 0x74 rfl),
          if_neg (hne 0x66 rfl), if_neg (hne 0x2D rfl), if_pos hb]
      · refine hmap (skipNumber (input.advance 1)) ?_
          (skipNumber_complete hn ht (advance_rest h))
        unfold skipToken
        rw [h]
        rfl
  | text htext =>
      refine hmap (skipText (input.advance 1)) ?_
        (skipText_complete htext ((advance_rest h).trans (List.append_assoc _ _ _)))
      unfold skipToken
      rw [h]
      rfl

theorem skipToken_opening (h : input.rest = opening c :: t) :
    skipToken stack input = .ok (false, c :: stack, input.advance 1) := by
  unfold skipToken
  rw [h]
  cases c <;> rfl

theorem scalar_begins {v : List UInt8} (h : IsScalar v) : ∃ b bs, v = b :: bs ∧ Begins b := by
  have hbegins : ∀ b, isBlank b = false ∧ b ≠ 0x5D ∧ b ≠ 0x7D → Begins b := fun _ h => h
  cases h with
  | null | true | false | text => exact ⟨_, _, rfl, hbegins _ (by decide)⟩
  | number hn =>
      rcases hn with hn | ⟨unsigned, rfl, -⟩
      · obtain ⟨b, bs, rfl, hb⟩ := unsigned_begins hn
        exact ⟨b, bs, rfl, begins_digit hb⟩
      · exact ⟨_, _, rfl, hbegins _ (by decide)⟩

/-- A value begins with a byte that begins values. -/
theorem value_begins {v : List UInt8} (h : IsValue v) : ∃ b bs, v = b :: bs ∧ Begins b := by
  have hbegins : ∀ b, isBlank b = false ∧ b ≠ 0x5D ∧ b ≠ 0x7D → Begins b := fun _ h => h
  cases h with
  | scalar hv => exact scalar_begins hv
  | @container c => exact ⟨_, _, rfl, hbegins _ (by cases c <;> decide)⟩

/-- A token has a byte at least, and it does not begin with blank space. -/
theorem Token.solid {a : Bool} (h : Token stack s a stack' t) :
    Solid s ∧ t.length < s.length := by
  cases h with
  | @opening c => exact ⟨solid_cons (by cases c <;> rfl) _, Nat.lt_succ_self _⟩
  | scalar hv =>
      obtain ⟨b, bs, rfl, hb⟩ := scalar_begins hv
      refine ⟨solid_cons hb.1 _, ?_⟩
      rw [List.length_append, List.length_cons]
      omega

/-! ## The ends of containers -/

/-- Containers that end one after another, up to a comma or to the first item of a container. The
flag says whether an item came to its end before. -/
inductive Shuts : Bool → List Container → List UInt8 → List Container → List UInt8 → Prop where
  | done {a : Bool} {t : List UInt8} : Shuts a [] t [] t
  | comma {c : Container} {stack : List Container} {before t : List UInt8}
      (hbefore : IsBlank before) : Shuts true (c :: stack) (before ++ 0x2C :: t) (c :: stack) t
  | close {a : Bool} {c : Container} {stack stack' : List Container} {before s t : List UInt8}
      (hbefore : IsBlank before) (h : Shuts true stack s stack' t) :
      Shuts a (c :: stack) (before ++ c.closing :: s) stack' t
  | stay {c : Container} {stack : List Container} {before t : List UInt8} {b : UInt8}
      (hbefore : IsBlank before) (hb : isBlank b = false) (hne : b ≠ c.closing) :
      Shuts false (c :: stack) (before ++ b :: t) (c :: stack) (b :: t)

theorem closing_ne_comma (c : Container) : c.closing ≠ 0x2C := by
  cases c <;> decide

theorem skipClosings_sound {fuel : Nat} {a : Bool} (hfuel : input.rest.length < fuel)
    (h : skipClosings fuel a stack input = .ok (stack', after)) :
    Shuts a stack input.rest stack' after.rest := by
  induction fuel generalizing a stack input with
  | zero => exact absurd hfuel (Nat.not_lt_zero _)
  | succ fuel ih =>
      cases stack with
      | nil =>
          obtain ⟨rfl, rfl⟩ := Prod.mk.inj (Except.ok.inj h)
          exact .done
      | cons c stack =>
          obtain ⟨hsolid, before, hbefore, hsplit⟩ := skipBlank_sound input
          unfold skipClosings at h
          dsimp only at h
          split at h
          · cases h
          · rename_i b rest hrest
            have hdrop : (input.skipBlank.advance 1).rest = rest := by
              simp [Input.advance, hrest]
            rw [hrest] at hsplit
            rw [hsplit]
            split_ifs at h with hcomma hclose hitem
            · obtain ⟨rfl, rfl⟩ := Prod.mk.inj (Except.ok.inj h)
              obtain ⟨rfl, rfl⟩ := hcomma
              rw [hdrop]
              exact .comma hbefore
            · subst b
              rw [hsplit, List.length_append, List.length_cons] at hfuel
              exact .close hbefore (hdrop ▸ ih (by rw [hdrop]; omega) h)
            · cases h
            · obtain ⟨rfl, rfl⟩ := Prod.mk.inj (Except.ok.inj h)
              rw [hrest]
              obtain rfl : a = false := by simpa using hitem
              exact .stay hbefore (hsolid b (by rw [hrest]; rfl)) hclose

theorem skipClosings_complete {a : Bool} (h : Shuts a stack s stack' t) {fuel : Nat}
    (hfuel : s.length < fuel) (hs : input.rest = s) :
    ∃ after, skipClosings fuel a stack input = .ok (stack', after) ∧ after.rest = t := by
  induction h generalizing input fuel with
  | done =>
      obtain ⟨fuel, rfl⟩ := Nat.exists_eq_succ_of_ne_zero (Nat.ne_zero_of_lt hfuel)
      exact ⟨input, rfl, hs⟩
  | @comma c stack before t hbefore =>
      obtain ⟨fuel, rfl⟩ := Nat.exists_eq_succ_of_ne_zero (Nat.ne_zero_of_lt hfuel)
      have hrest := skipBlank_complete hbefore (solid_cons rfl t) hs
      refine ⟨input.skipBlank.advance 1, ?_, advance_rest hrest⟩
      unfold skipClosings
      dsimp only
      rw [hrest]
      simp only [and_self, if_true]
  | @close a c stack stack' before s t hbefore _ ih =>
      obtain ⟨fuel, rfl⟩ := Nat.exists_eq_succ_of_ne_zero (Nat.ne_zero_of_lt hfuel)
      have hrest := skipBlank_complete hbefore (solid_cons (by cases c <;> rfl) s) hs
      rw [List.length_append, List.length_cons] at hfuel
      have hlt : s.length < fuel := by omega
      obtain ⟨after, hskip, hafter⟩ := ih hlt (advance_rest hrest)
      refine ⟨after, ?_, hafter⟩
      unfold skipClosings
      dsimp only
      rw [hrest]
      simp only [closing_ne_comma c, false_and, if_false, if_true, hskip]
  | @stay c stack before t b hbefore hb hne =>
      obtain ⟨fuel, rfl⟩ := Nat.exists_eq_succ_of_ne_zero (Nat.ne_zero_of_lt hfuel)
      have hrest := skipBlank_complete hbefore (solid_cons hb t) hs
      refine ⟨input.skipBlank, ?_, hrest⟩
      unfold skipClosings
      dsimp only
      rw [hrest]
      simp only [Bool.false_eq_true, and_false, if_false, if_neg hne]

/-- Where reading goes on after containers have ended: everything is done, or the next item follows
with the rest of the open containers. -/
inductive Resumes : List Container → List UInt8 → List UInt8 → Prop where
  | done {t : List UInt8} : Resumes [] t t
  | next {c : Container} {stack : List Container} {before text v s t : List UInt8}
      (hbefore : IsBlank before) (htext : Spells c v text) (hv : IsValue v)
      (h : Closes (c :: stack) s t) : Resumes (c :: stack) (before ++ (text ++ s)) t

/-- After an item the open containers are closed up to the next item, and so on. -/
theorem closes_iff : Closes stack s t ↔
    ∃ stack' u, Shuts true stack s stack' u ∧ Resumes stack' u t := by
  constructor
  · intro h
    induction h with
    | done => exact ⟨_, _, .done, .done⟩
    | close hbefore h ih =>
        obtain ⟨stack', u, hshuts, hresumes⟩ := ih
        exact ⟨stack', u, .close hbefore hshuts, hresumes⟩
    | next hbefore hbetween htext hv h =>
        exact ⟨_, _, .comma hbefore, .next hbetween htext hv h⟩
  · rintro ⟨stack', u, hshuts, hresumes⟩
    generalize ha : true = a at hshuts
    induction hshuts with
    | done =>
        cases hresumes
        exact .done
    | comma hbefore =>
        cases hresumes with
        | next hbetween htext hv h => exact .next hbefore hbetween htext hv h
    | close hbefore h ih => exact .close hbefore (ih hresumes rfl)
    | stay => cases ha

/-- An item begins with a byte that is neither blank nor the end of its container. -/
theorem spells_begins {v text : List UInt8} (htext : Spells c v text) (hv : IsValue v) :
    ∃ b bs, text = b :: bs ∧ isBlank b = false ∧ b ≠ c.closing := by
  cases c with
  | list =>
      obtain rfl : v = text := htext
      obtain ⟨b, bs, rfl, hblank, hbracket, -⟩ := value_begins hv
      exact ⟨b, bs, rfl, hblank, hbracket⟩
  | object =>
      obtain ⟨key, before, between, rfl, -⟩ := htext
      exact ⟨0x22, _, rfl, rfl, by decide⟩

/-- After its opening a container has its items and its end. -/
theorem opens_iff : (∃ vs body rest, (∀ v ∈ vs, IsValue v) ∧ Series (Spells c) true vs body ∧
      s = body ++ c.closing :: rest ∧ Closes stack rest t) ↔
    ∃ stack' u, Shuts false (c :: stack) s stack' u ∧ Resumes stack' u t := by
  constructor
  · rintro ⟨vs, body, rest, hvs, hseries, rfl, hrest⟩
    cases hseries with
    | nil hblank =>
        obtain ⟨stack', u, hshuts, hresumes⟩ := closes_iff.mp hrest
        exact ⟨stack', u, .close hblank hshuts, hresumes⟩
    | @first v vs before text body hbefore htext hseries =>
        obtain ⟨hv, hvs⟩ := List.forall_mem_cons.mp hvs
        have hcloses : Closes (c :: stack) (body ++ c.closing :: rest) t :=
          closes_cons_iff.mpr ⟨vs, body, rest, hvs, hseries, rfl, hrest⟩
        obtain ⟨b, bs, hb, hblank, hne⟩ := spells_begins htext hv
        have hnothing : IsBlank [] := by simp [IsBlank]
        have hresumes : Resumes (c :: stack) ([] ++ (text ++ (body ++ c.closing :: rest))) t :=
          .next hnothing htext hv hcloses
        refine ⟨c :: stack, text ++ (body ++ c.closing :: rest), ?_, hresumes⟩
        simp only [hb, List.append_assoc, List.cons_append]
        exact .stay hbefore hblank hne
  · rintro ⟨stack', u, hshuts, hresumes⟩
    cases hshuts with
    | close hbefore hshuts =>
        exact ⟨[], _, _, by simp, .nil hbefore, rfl, closes_iff.mpr ⟨_, _, hshuts, hresumes⟩⟩
    | @stay _ _ blank tail b hblank hb hne =>
        generalize hu : b :: tail = u at hresumes
        cases hresumes with
        | @next _ _ before text v rest _ hbefore htext hv hcloses =>
            obtain ⟨vs, body, rest, hvs, hseries, rfl, hrest⟩ := closes_cons_iff.mp hcloses
            refine ⟨v :: vs, _, rest, List.forall_mem_cons.mpr ⟨hv, hvs⟩,
              .first (hblank.append hbefore) htext hseries, ?_, hrest⟩
            simp only [List.append_assoc]

/-! ## Values -/

/-- A value and the rest of the open containers are a token, ends of containers, and what comes
after these. -/
theorem value_iff : (∃ v rest, s = v ++ rest ∧ IsValue v ∧ Closes stack rest t) ↔
    ∃ a stack₁ u stack₂ w, Token stack s a stack₁ u ∧ Shuts a stack₁ u stack₂ w ∧
      Resumes stack₂ w t := by
  constructor
  · rintro ⟨v, rest, rfl, hv, hcloses⟩
    cases hv with
    | scalar hv =>
        obtain ⟨stack₂, w, hshuts, hresumes⟩ := closes_iff.mp hcloses
        exact ⟨true, stack, rest, stack₂, w, .scalar hv, hshuts, hresumes⟩
    | @container c vs body hvs hseries =>
        obtain ⟨stack₂, w, hshuts, hresumes⟩ :=
          opens_iff.mp ⟨vs, body, rest, hvs, hseries, rfl, hcloses⟩
        refine ⟨false, c :: stack, body ++ c.closing :: rest, stack₂, w, ?_, hshuts, hresumes⟩
        rw [List.cons_append, List.append_assoc, List.singleton_append]
        exact .opening c
  · rintro ⟨a, stack₁, u, stack₂, w, htoken, hshuts, hresumes⟩
    cases htoken with
    | scalar hv => exact ⟨_, u, rfl, .scalar hv, closes_iff.mpr ⟨stack₂, w, hshuts, hresumes⟩⟩
    | opening c =>
        obtain ⟨vs, body, rest, hvs, hseries, rfl, hcloses⟩ :=
          opens_iff.mpr ⟨stack₂, w, hshuts, hresumes⟩
        exact ⟨opening c :: (body ++ [c.closing]), rest, by simp, .container hvs hseries, hcloses⟩

/-- A key that is passed over is one, with its colon. -/
theorem skipKey_sound (h : skipKey input = .ok after) : ∃ before key between, IsBlank before ∧
    IsText key ∧ IsBlank between ∧
      input.rest = before ++ 0x22 :: (key ++ 0x22 :: (between ++ 0x3A :: after.rest)) := by
  obtain ⟨-, before, hbefore, hsplit⟩ := skipBlank_sound input
  unfold skipKey at h
  split at h
  · rename_i rest hrest
    obtain ⟨next, hskip, h⟩ := bind_eq_ok_iff.mp h
    obtain ⟨key, hkey, heq⟩ := skipText_sound hskip
    obtain ⟨-, between, hbetween, hnext⟩ := skipBlank_sound next
    have hdrop : (input.skipBlank.advance 1).rest = rest := advance_rest hrest
    dsimp only at h
    split at h
    · rename_i tail htail
      obtain rfl := Except.ok.inj h
      refine ⟨before, key, between, hbefore, hkey, hbetween, ?_⟩
      rw [hsplit, hrest, ← hdrop, heq, hnext, htail]
      simp [Input.advance, htail]
    · cases h
    · cases h
  · cases h
  · cases h

theorem skipKey_complete {before key between : List UInt8} (hbefore : IsBlank before)
    (hkey : IsText key) (hbetween : IsBlank between)
    (h : input.rest = before ++ 0x22 :: (key ++ 0x22 :: (between ++ 0x3A :: s))) :
    ∃ after, skipKey input = .ok after ∧ after.rest = s := by
  have hrest := skipBlank_complete hbefore (solid_cons rfl _) h
  obtain ⟨next, hskip, hnext⟩ := skipText_complete hkey (advance_rest hrest)
  have hcolon := skipBlank_complete hbetween (solid_cons rfl _) hnext
  refine ⟨next.skipBlank.advance 1, ?_, advance_rest hcolon⟩
  unfold skipKey
  rw [hrest]
  refine bind_eq_ok_iff.mpr ⟨next, hskip, ?_⟩
  simp only [hcolon]
  rfl

/-- Go on with the next item unless all containers have ended. -/
def skipOn (fuel : Nat) : List Container → Input → Except Error Input
  | [], input => .ok input
  | .list :: stack, input => skipValues fuel (.list :: stack) input
  | .object :: stack, input => skipKey input >>= skipValues fuel (.object :: stack)

/-- Go on after a token: close the containers that end after it. -/
def skipAfterToken (fuel : Nat) :
    Except Error (Bool × List Container × Input) → Except Error Input
  | .error e => .error e
  | .ok (afterItem, stack, input) =>
      match skipClosings (input.rest.length + 1) afterItem stack input with
      | .error e => .error e
      | .ok ([], input) => .ok input
      | .ok (.list :: stack, input) => skipValues fuel (.list :: stack) input
      | .ok (.object :: stack, input) =>
          match skipKey input with
          | .error e => .error e
          | .ok input => skipValues fuel (.object :: stack) input

theorem skipAfterToken_eq (fuel : Nat) (token : Except Error (Bool × List Container × Input)) :
    skipAfterToken fuel token = token >>= fun (afterItem, stack, input) =>
      skipClosings (input.rest.length + 1) afterItem stack input >>= fun (stack, input) =>
        skipOn fuel stack input := by
  cases token with
  | error e => rfl
  | ok token =>
      obtain ⟨afterItem, stack, input⟩ := token
      simp only [skipAfterToken, bind, Except.bind]
      cases skipClosings (input.rest.length + 1) afterItem stack input with
      | error e => rfl
      | ok closed =>
          obtain ⟨_ | ⟨_ | _, stack⟩, input⟩ := closed
          · rfl
          · rfl
          · simp only [skipOn, bind, Except.bind]
            cases skipKey input <;> rfl

/-- A value is passed over token by token. -/
theorem skipValues_succ (fuel : Nat) (stack : List Container) (input : Input) :
    skipValues (fuel + 1) stack input =
      skipToken stack input.skipBlank >>= fun (afterItem, stack, input) =>
        skipClosings (input.rest.length + 1) afterItem stack input >>= fun (stack, input) =>
          skipOn fuel stack input :=
  skipAfterToken_eq fuel (skipToken stack input.skipBlank)

theorem Shuts.length_le {a : Bool} (h : Shuts a stack s stack' t) : t.length ≤ s.length := by
  induction h with
  | done => exact Nat.le_refl _
  | comma | stay =>
      simp only [List.length_append, List.length_cons]
      omega
  | close _ _ ih =>
      simp only [List.length_append, List.length_cons]
      omega

/-- What is passed over are a value and the rest of the open containers. -/
theorem skipValues_sound {fuel : Nat} (hfuel : input.rest.length < fuel)
    (h : skipValues fuel stack input = .ok after) : ∃ before v rest, IsBlank before ∧
      IsValue v ∧ Closes stack rest after.rest ∧ input.rest = before ++ (v ++ rest) := by
  induction fuel generalizing stack input with
  | zero => exact absurd hfuel (Nat.not_lt_zero _)
  | succ fuel ih =>
      rw [skipValues_succ] at h
      obtain ⟨⟨a, stack₁, next⟩, htoken, h⟩ := bind_eq_ok_iff.mp h
      obtain ⟨⟨stack₂, last⟩, hclosings, h⟩ := bind_eq_ok_iff.mp h
      have htoken := skipToken_sound htoken
      have hshuts := skipClosings_sound (Nat.lt_succ_self _) hclosings
      obtain ⟨-, before, hbefore, hsplit⟩ := skipBlank_sound input
      have hlast : last.rest.length < fuel := by
        have hlength := congrArg List.length hsplit
        rw [List.length_append] at hlength
        have hlt := htoken.solid.2
        have hle := hshuts.length_le
        omega
      have hresumes : Resumes stack₂ last.rest after.rest := by
        match stack₂ with
        | [] =>
            obtain rfl := Except.ok.inj h
            exact .done
        | .list :: stack =>
            obtain ⟨before, v, rest, hbefore, hv, hcloses, heq⟩ := ih hlast h
            rw [heq]
            exact .next hbefore rfl hv hcloses
        | .object :: stack =>
            obtain ⟨value, hkey, h⟩ := bind_eq_ok_iff.mp h
            obtain ⟨before, key, between, hbefore, hkey, hbetween, heq⟩ := skipKey_sound hkey
            obtain ⟨between', v, rest, hbetween', hv, hcloses, heq'⟩ := ih (by
              have hlength := congrArg List.length heq
              simp only [List.length_append, List.length_cons] at hlength
              omega) h
            have htext : Spells .object v
                (0x22 :: (key ++ 0x22 :: (between ++ 0x3A :: (between' ++ v)))) :=
              ⟨key, between, between', rfl, hkey, hbetween, hbetween'⟩
            rw [heq, heq']
            simpa using Resumes.next hbefore htext hv hcloses
      obtain ⟨v, rest, heq, hv, hcloses⟩ :=
        value_iff.mpr ⟨a, stack₁, next.rest, stack₂, last.rest, htoken, hshuts, hresumes⟩
      exact ⟨before, v, rest, hbefore, hv, hcloses, heq ▸ hsplit⟩

/-- A value and the rest of the open containers are passed over. -/
theorem skipValues_complete {fuel : Nat} {before v rest : List UInt8} (hfuel : s.length < fuel)
    (hbefore : IsBlank before) (hv : IsValue v) (hcloses : Closes stack rest t) (ht : Ends t)
    (hs : s = before ++ (v ++ rest)) (h : input.rest = s) :
    ∃ after, skipValues fuel stack input = .ok after ∧ after.rest = t := by
  induction fuel generalizing stack input s before v rest with
  | zero => exact absurd hfuel (Nat.not_lt_zero _)
  | succ fuel ih =>
      obtain ⟨a, stack₁, u, stack₂, w, htoken, hshuts, hresumes⟩ :=
        value_iff.mp ⟨v, rest, rfl, hv, hcloses⟩
      have hrest := skipBlank_complete hbefore htoken.solid.1 (h.trans hs)
      have hnext : ∃ next, skipToken stack input.skipBlank = .ok (a, stack₁, next) ∧
          next.rest = u := by
        generalize hopen : v ++ rest = opened at htoken
        cases htoken with
        | scalar hscalar =>
            have hends := (closes_iff.mpr ⟨stack₂, w, hshuts, hresumes⟩).ends ht
            exact skipToken_scalar hscalar hends (hrest.trans hopen)
        | opening c =>
            exact ⟨_, skipToken_opening (hrest.trans hopen),
              advance_rest (hrest.trans hopen)⟩
      obtain ⟨next, hnext, rfl⟩ := hnext
      obtain ⟨last, hclosings, rfl⟩ := skipClosings_complete hshuts (Nat.lt_succ_self _) rfl
      have hlast : last.rest.length < fuel := by
        have hlength := congrArg List.length hs
        rw [List.length_append] at hlength
        have hlt := htoken.solid.2
        have hle := hshuts.length_le
        omega
      have hon : ∃ after, skipOn fuel stack₂ last = .ok after ∧ after.rest = t := by
        generalize hw : last.rest = w at hresumes hlast
        cases hresumes with
        | done => exact ⟨last, rfl, hw⟩
        | @next c _ before text v _ _ hbefore htext hv hcloses =>
            cases c with
            | list =>
                obtain rfl : v = text := htext
                exact ih hlast hbefore hv hcloses rfl hw
            | object =>
                obtain ⟨key, between, between', rfl, hkey, hbetween, hbetween'⟩ := htext
                rw [List.cons_append, List.append_assoc, List.cons_append, List.append_assoc,
                  List.cons_append, List.append_assoc] at hw hlast
                obtain ⟨value, hskip, hvalue⟩ := skipKey_complete hbefore hkey hbetween hw
                obtain ⟨after, hafter, hrest⟩ := ih (by
                  simp only [List.length_append, List.length_cons] at hlast ⊢
                  omega) hbetween' hv hcloses rfl hvalue
                exact ⟨after, bind_eq_ok_iff.mpr ⟨value, hskip, hafter⟩, hrest⟩
      obtain ⟨after, hon, hafter⟩ := hon
      refine ⟨after, ?_, hafter⟩
      rw [skipValues_succ]
      exact bind_eq_ok_iff.mpr ⟨_, hnext, bind_eq_ok_iff.mpr ⟨_, hclosings, hon⟩⟩

/-- What is passed over is a value. -/
theorem skipValue_sound (h : skipValue input = .ok after) : ∃ before v, IsBlank before ∧
    IsValue v ∧ input.rest = before ++ (v ++ after.rest) := by
  obtain ⟨before, v, rest, hbefore, hv, hcloses, heq⟩ :=
    skipValues_sound (Nat.lt_succ_self _) h
  cases hcloses
  exact ⟨before, v, hbefore, hv, heq⟩

/-- A value is passed over if no number goes on after it. -/
theorem skipValue_complete {before v : List UInt8} (hbefore : IsBlank before) (hv : IsValue v)
    (ht : Ends t) (h : input.rest = before ++ (v ++ t)) :
    ∃ after, skipValue input = .ok after ∧ after.rest = t :=
  skipValues_complete (Nat.lt_succ_self _) hbefore hv .done ht h rfl

end GaleraProxy.Json
