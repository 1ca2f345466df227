import GaleraProxy.Proofs.Json.Skipping

/-!
# The parts of a document follow the grammar

Lists and objects are read part by part: where an item begins, a key, its colon and a value. What is
said here of a value is said of truth values and of natural numbers; anything else that a plan
leaves out is passed over.
-/

namespace GaleraProxy.Json

open Document Grammar

variable {input after : Input} {s t : List UInt8} {c : Container}

/-! ## Items -/

/-- Where an item may begin: a key begins with a quote. -/
def itemStart (c : Container) (input : Input) : Except Error (Option Input) :=
  match c, input.rest with
  | .list, _ | .object, 0x22 :: _ => .ok (some input)
  | .object, _ => input.failNext .keyNotString

theorem itemStart_sound {found : Option Input} (h : itemStart c input = .ok found) :
    found = some input ∧ (c = .object → ∃ rest, input.rest = 0x22 :: rest) := by
  unfold itemStart at h
  split at h
  · exact ⟨(Except.ok.inj h).symm, nofun⟩
  · exact ⟨(Except.ok.inj h).symm, fun _ => ⟨_, ‹_›⟩⟩
  · cases h

theorem nextItem_eq (c : Container) (first : Bool) (input : Input) :
    nextItem? c first input =
      match input.skipBlank.rest with
      | [] => input.skipBlank.failNext c.eof
      | b :: _ =>
          if b = c.closing then .ok none
          else if first then itemStart c input.skipBlank
          else if b = 0x2C then
            match (input.skipBlank.advance 1).skipBlank.rest with
            | [] => (input.skipBlank.advance 1).skipBlank.failNext .eofInValue
            | d :: _ =>
                if d = c.closing then
                  (input.skipBlank.advance 1).skipBlank.failNext .trailingComma
                else itemStart c (input.skipBlank.advance 1).skipBlank
          else input.skipBlank.failNext c.expectedEnd := rfl

/-- What is found where an item may come: the end of the container, or an item after blank space
and, unless it is the first one, after a comma. -/
theorem nextItem_sound {first : Bool} {found : Option Input}
    (h : nextItem? c first input = .ok found) : ∃ before, IsBlank before ∧
      match found with
      | none => input.rest = before ++ c.closing :: (input.skipBlank.advance 1).rest
      | some item => (c = .object → ∃ rest, item.rest = 0x22 :: rest) ∧
          if first then input.rest = before ++ item.rest
          else ∃ between, IsBlank between ∧
            input.rest = before ++ 0x2C :: (between ++ item.rest) := by
  obtain ⟨-, before, hbefore, hsplit⟩ := skipBlank_sound input
  refine ⟨before, hbefore, ?_⟩
  rw [nextItem_eq] at h
  split at h
  · cases h
  · rename_i b rest hrest
    have hdrop : (input.skipBlank.advance 1).rest = rest := advance_rest hrest
    split_ifs at h with hclose hfirst hcomma
    · obtain rfl := Except.ok.inj h
      rw [hsplit, hrest, hclose, hdrop]
    · obtain ⟨rfl, hquote⟩ := itemStart_sound h
      exact ⟨hquote, by rw [if_pos hfirst]; exact hsplit⟩
    · split at h
      · cases h
      · split at h
        · cases h
        · obtain ⟨rfl, hquote⟩ := itemStart_sound h
          obtain ⟨-, between, hbetween, hsplit'⟩ := skipBlank_sound (input.skipBlank.advance 1)
          refine ⟨hquote, ?_⟩
          rw [if_neg hfirst]
          exact ⟨between, hbetween, by rw [hsplit, hrest, hcomma, ← hdrop, hsplit']⟩
    · cases h

/-- The end of a container is found. -/
theorem nextItem_closing {before : List UInt8} {first : Bool} (hbefore : IsBlank before)
    (h : input.rest = before ++ c.closing :: s) :
    nextItem? c first input = .ok none ∧ (input.skipBlank.advance 1).rest = s := by
  have hrest := skipBlank_complete hbefore (solid_cons (by cases c <;> rfl) s) h
  rw [nextItem_eq, hrest]
  exact ⟨if_pos rfl, advance_rest hrest⟩

theorem itemStart_complete {b : UInt8} (hquote : c = .object → b = 0x22)
    (h : input.rest = b :: s) : itemStart c input = .ok (some input) := by
  unfold itemStart
  cases c with
  | list => rfl
  | object =>
      obtain rfl := hquote rfl
      rw [h]
      rfl

/-- The first item of a container is found. -/
theorem nextItem_begin {before : List UInt8} {b : UInt8} (hbefore : IsBlank before)
    (hb : isBlank b = false) (hne : b ≠ c.closing) (hquote : c = .object → b = 0x22)
    (h : input.rest = before ++ b :: s) :
    nextItem? c true input = .ok (some input.skipBlank) ∧ input.skipBlank.rest = b :: s := by
  have hrest := skipBlank_complete hbefore (solid_cons hb s) h
  refine ⟨?_, hrest⟩
  rw [nextItem_eq, hrest]
  simp only [if_neg hne, if_true, itemStart_complete hquote hrest]

/-- A further item of a container is found after a comma. -/
theorem nextItem_next {before between : List UInt8} {b : UInt8} (hbefore : IsBlank before)
    (hbetween : IsBlank between) (hb : isBlank b = false) (hne : b ≠ c.closing)
    (hquote : c = .object → b = 0x22)
    (h : input.rest = before ++ 0x2C :: (between ++ b :: s)) :
    ∃ item, nextItem? c false input = .ok (some item) ∧ item.rest = b :: s := by
  have hrest := skipBlank_complete hbefore (solid_cons rfl _) h
  have hdrop : (input.skipBlank.advance 1).rest = between ++ b :: s := by
    simp [Input.advance, hrest]
  have hitem := skipBlank_complete hbetween (solid_cons hb s) hdrop
  refine ⟨(input.skipBlank.advance 1).skipBlank, ?_, hitem⟩
  rw [nextItem_eq, hrest]
  simp only [if_neg (closing_ne_comma c).symm, Bool.false_eq_true, if_false, if_true, hitem,
    if_neg hne, itemStart_complete hquote hitem]

/-! ## Keys -/

theorem colon_sound (h : colon input = .ok after) :
    ∃ before, IsBlank before ∧ input.rest = before ++ 0x3A :: after.rest := by
  obtain ⟨-, before, hbefore, hsplit⟩ := skipBlank_sound input
  refine ⟨before, hbefore, ?_⟩
  unfold colon at h
  dsimp only at h
  split at h
  · rename_i rest hrest
    obtain rfl := Except.ok.inj h
    rw [hsplit, hrest]
    simp [Input.advance, hrest]
  · cases h
  · cases h

theorem colon_complete {before : List UInt8} (hbefore : IsBlank before)
    (h : input.rest = before ++ 0x3A :: s) : ∃ after, colon input = .ok after ∧ after.rest = s := by
  have hrest := skipBlank_complete hbefore (solid_cons rfl s) h
  refine ⟨input.skipBlank.advance 1, ?_, advance_rest hrest⟩
  unfold colon
  dsimp only
  rw [hrest]
  rfl

/-- A key that is read denotes its name. -/
theorem keyNode_sound {name : String} {key : JsonNode} (hquote : input.rest = 0x22 :: s)
    (h : keyNode input = .ok (name, key, after)) : ∃ body, Denotes body (Utf8.encode name) ∧
      (∃ span, key = .scalar span (.text name)) ∧
      input.rest = 0x22 :: (body ++ 0x22 :: after.rest) := by
  obtain ⟨⟨text, next⟩, hread, h⟩ := bind_eq_ok_iff.mp h
  obtain ⟨rfl, rfl, rfl⟩ := Except.ok.inj h
  obtain ⟨body, hbody, hrest⟩ := textBody_sound hread
  refine ⟨body, hbody, ⟨_, rfl⟩, ?_⟩
  rw [hquote, ← hrest]
  simp [Input.advance, hquote]

theorem keyNode_complete {name : String} {body : List UInt8}
    (hbody : Denotes body (Utf8.encode name)) (h : input.rest = 0x22 :: (body ++ 0x22 :: s)) :
    ∃ span after, keyNode input = .ok (name, .scalar span (.text name), after) ∧
      after.rest = s := by
  obtain ⟨after, hread, hafter⟩ := textBody_complete hbody (advance_rest h)
  exact ⟨_, after, bind_eq_ok_iff.mpr ⟨_, hread, rfl⟩, hafter⟩

/-! ## Values without parts -/

/-- How a truth value is written. -/
def flagBytes (b : Bool) : List UInt8 :=
  Utf8.bytes (if b then ['t', 'r', 'u', 'e'] else ['f', 'a', 'l', 's', 'e'])

theorem scalarNode_eq_iff {start : Nat} {result : Except Error (Scalar × Input)} {span : Span}
    {x : Scalar} {rest : Option Input} (h : scalarNode start result = (.scalar span x, rest)) :
    ∃ after, result = .ok (x, after) ∧ rest = some after := by
  unfold scalarNode at h
  split at h
  · rename_i y last
    obtain ⟨hnode, rfl⟩ := Prod.mk.inj h
    obtain ⟨-, rfl⟩ := Node.scalar.inj hnode
    exact ⟨last, rfl, rfl⟩
  · cases (Prod.mk.inj h).1

/-- Where a scalar comes from. -/
inductive ScalarAt (input : Input) : Scalar → Input → Prop where
  | null {after : Input} : ScalarAt input .null after
  | bool {after : Input} (b : Bool) (h : input.rest = flagBytes b ++ after.rest) :
      ScalarAt input (.bool b) after
  | negative {x : Scalar} {after : Input} (h : number true (input.advance 1) = .ok (x, after)) :
      ScalarAt input x after
  | unsigned {x : Scalar} {after : Input} (h : number false input = .ok (x, after)) :
      ScalarAt input x after
  | text {after : Input} (s : String) : ScalarAt input (.text s) after

theorem valueNode_scalar_sound {fuel : Nat} {plan : Plan} {span : Span} {x : Scalar}
    {rest : Option Input} (h : valueNode fuel plan input = (.scalar span x, rest)) :
    ∃ after, rest = some after ∧ ScalarAt input.skipBlank x after := by
  cases fuel with
  | zero => cases (Prod.mk.inj h).1
  | succ fuel =>
      unfold valueNode at h
      dsimp only at h
      split at h
      · cases (Prod.mk.inj h).1
      · rename_i b tail hrest
        have hdrop : (input.skipBlank.advance 1).rest = tail := advance_rest hrest
        split_ifs at h with hnull htrue hfalse hminus hdigit hquote hlist hobject
        · obtain ⟨after, hresult, rfl⟩ := scalarNode_eq_iff h
          obtain ⟨next, -, heq⟩ := map_eq_ok_iff.mp hresult
          obtain ⟨rfl, rfl⟩ := Prod.mk.inj heq
          exact ⟨_, rfl, .null⟩
        · obtain ⟨after, hresult, rfl⟩ := scalarNode_eq_iff h
          obtain ⟨next, hexpect, heq⟩ := map_eq_ok_iff.mp hresult
          obtain ⟨rfl, rfl⟩ := Prod.mk.inj heq
          exact ⟨_, rfl, .bool true (by rw [hrest, htrue, ← hdrop, expect_sound hexpect]; rfl)⟩
        · obtain ⟨after, hresult, rfl⟩ := scalarNode_eq_iff h
          obtain ⟨next, hexpect, heq⟩ := map_eq_ok_iff.mp hresult
          obtain ⟨rfl, rfl⟩ := Prod.mk.inj heq
          exact ⟨_, rfl, .bool false (by rw [hrest, hfalse, ← hdrop, expect_sound hexpect]; rfl)⟩
        · obtain ⟨after, hresult, rfl⟩ := scalarNode_eq_iff h
          exact ⟨_, rfl, .negative hresult⟩
        · obtain ⟨after, hresult, rfl⟩ := scalarNode_eq_iff h
          exact ⟨_, rfl, .unsigned hresult⟩
        · obtain ⟨after, hresult, rfl⟩ := scalarNode_eq_iff h
          obtain ⟨⟨text, next⟩, -, heq⟩ := map_eq_ok_iff.mp hresult
          obtain ⟨rfl, rfl⟩ := Prod.mk.inj heq
          exact ⟨_, rfl, .text text⟩
        · split at h <;> cases (Prod.mk.inj h).1
        · split at h <;> cases (Prod.mk.inj h).1
        · cases (Prod.mk.inj h).1

theorem readFlag_sound {path : Path} {node : JsonNode} {b : Bool}
    (h : readFlag path node = .ok b) : ∃ span x, node = .scalar span x ∧ x.reading = .bool b := by
  unfold readFlag at h
  split at h
  · rename_i span x
    split at h
    · rename_i hreading
      obtain rfl := Except.ok.inj h
      exact ⟨span, x, rfl, hreading⟩
    · cases h
  · rename_i other
    cases node <;> cases h

theorem readWord64_sound {path : Path} {node : JsonNode} {w : UInt64}
    (h : readWord64 dialect path node = .ok w) :
    ∃ span x, node = .scalar span x ∧ x.reading = .int w.toNat := by
  obtain ⟨n, hread, rfl⟩ := map_eq_ok_iff.mp h
  unfold readNat at hread
  split at hread
  · rename_i span x
    split at hread
    · rename_i i hreading
      by_cases hfits : i < UInt64.size
      · rw [if_pos hfits] at hread
        obtain rfl := Except.ok.inj hread
        refine ⟨span, x, rfl, ?_⟩
        rw [hreading, UInt64.toNat_ofNat_of_lt' hfits]
        rfl
      · rw [if_neg hfits, if_neg hfits] at hread
        cases hread
    · split at hread <;> cases hread
    · cases hread
  · cases node <;> cases hread

theorem readWord64_toNat (path : Path) (span : Span) (w : UInt64) :
    readWord64 (ε := Error) dialect path (.scalar span (.int w.toNat)) = .ok w := by
  have hnat : readNat (ε := Error) dialect UInt64.size .word64 path (.scalar span (.int w.toNat)) =
      .ok w.toNat := if_pos w.toNat_lt
  rw [readWord64, hnat]
  exact congrArg Except.ok UInt64.ofNat_toNat

/-- A truth value is written where one is read. -/
theorem flag_sound {fuel : Nat} {plan : Plan} {path : Path} {node : JsonNode}
    {rest : Option Input} {b : Bool} (h : valueNode fuel plan input = (node, rest))
    (hread : readFlag path node = .ok b) : ∃ before after, rest = some after ∧ IsBlank before ∧
      input.rest = before ++ (flagBytes b ++ after.rest) := by
  obtain ⟨span, x, rfl, hreading⟩ := readFlag_sound hread
  obtain ⟨after, rfl, hx⟩ := valueNode_scalar_sound h
  obtain ⟨-, before, hbefore, hsplit⟩ := skipBlank_sound input
  cases hx with
  | bool b' hrest =>
      obtain rfl := Scalar.bool.inj hreading
      exact ⟨before, after, rfl, hbefore, hrest ▸ hsplit⟩
  | null | text => cases hreading
  | negative hnumber | unsigned hnumber =>
      rcases number_numeric hnumber with ⟨r, rfl⟩ | ⟨i, rfl⟩ <;> cases hreading

/-- The decimal form of a number is written where one of 64 bits is read. -/
theorem word_sound {fuel : Nat} {plan : Plan} {path : Path} {node : JsonNode}
    {rest : Option Input} {w : UInt64} (h : valueNode fuel plan input = (node, rest))
    (hread : readWord64 dialect path node = .ok w) :
    ∃ before after, rest = some after ∧ IsBlank before ∧
      input.rest = before ++ (digits w.toNat ++ after.rest) := by
  obtain ⟨span, x, rfl, hreading⟩ := readWord64_sound hread
  obtain ⟨after, rfl, hx⟩ := valueNode_scalar_sound h
  obtain ⟨-, before, hbefore, hsplit⟩ := skipBlank_sound input
  have hint : ∀ {negative : Bool} {next : Input}, number negative next = .ok (x, after) →
      negative = false ∧ next.rest = digits w.toNat ++ after.rest := by
    intro negative next hnumber
    obtain rfl : x = .int w.toNat := by
      rcases number_numeric hnumber with ⟨r, rfl⟩ | ⟨i, rfl⟩ <;> exact hreading
    obtain ⟨hnegative, -, hrest⟩ := number_sound hnumber
    exact ⟨hnegative, hrest⟩
  cases hx with
  | bool | null | text => cases hreading
  | negative hnumber => cases (hint hnumber).1
  | unsigned hnumber => exact ⟨before, after, rfl, hbefore, (hint hnumber).2 ▸ hsplit⟩

theorem flagBytes_isValue (b : Bool) : IsValue (flagBytes b) := by
  cases b with
  | true => exact .scalar .true
  | false => exact .scalar .false

theorem digits_isDigit (n : Nat) : ∀ b ∈ digits n, isDigit b = true := by
  induction n using Nat.strongRecOn with
  | ind n ih =>
      have hdigit : ∀ {d : Nat}, d < 10 → ∀ b ∈ Utf8.bytes [Nat.digitChar d], isDigit b = true := by
        intro d hd b hb
        obtain ⟨c, hc, hdigit, -⟩ := exists_digit hd
        rw [hc, List.mem_singleton] at hb
        exact hb ▸ hdigit
      by_cases hlt : n < 10
      · rw [digits_of_lt hlt]
        exact hdigit hlt
      · rw [digits_of_le (by omega)]
        intro b hb
        rcases List.mem_append.mp hb with hb | hb
        · exact ih (n / 10) (by omega) b hb
        · exact hdigit (Nat.mod_lt n (by decide)) b hb

/-- The decimal form of a number is a value. -/
theorem digits_isValue (n : Nat) : IsValue (digits n) := by
  refine .scalar (.number (.inl ⟨digits n, [], [], by simp, ?_, .inl rfl, .inl rfl⟩))
  by_cases hzero : n = 0
  · exact .inl (by rw [hzero]; rfl)
  · obtain ⟨b, bs, hb, -, hne⟩ := digits_head hzero
    refine .inr ⟨⟨by rw [hb]; exact List.cons_ne_nil b bs, digits_isDigit n⟩, ?_⟩
    rw [hb]
    exact fun heq => hne (Option.some.inj heq)

theorem valueNode_blank (fuel : Nat) (plan : Plan) {before : List UInt8} (hbefore : IsBlank before)
    (hs : Solid s) (h : input.rest = before ++ s) :
    valueNode (fuel + 1) plan input = valueNode (fuel + 1) plan ⟨input.skipBlank.offset, s⟩ := by
  have hskip : input.skipBlank = ⟨input.skipBlank.offset, s⟩ := by
    rw [← skipBlank_complete hbefore hs h]
  have hagain : (⟨input.skipBlank.offset, s⟩ : Input).skipBlank =
      ⟨input.skipBlank.offset, s⟩ := by
    cases s with
    | nil => rfl
    | cons b rest => exact skipBlank_cons (hs b rfl) _ _
  rw [valueNode, valueNode, hagain, hskip]

/-- A truth value that is written is read. -/
theorem flag_complete (before : List UInt8) (b : Bool) (hbefore : IsBlank before)
    (h : input.rest = before ++ (flagBytes b ++ t)) (fuel : Nat) :
    ∃ span after, valueNode (fuel + 1) .whole input = (.scalar span (.bool b), some after) ∧
      after.rest = t := by
  have hsolid : Solid (flagBytes b ++ t) := by cases b <;> exact solid_cons rfl _
  rw [valueNode_blank fuel .whole hbefore hsolid h]
  generalize input.skipBlank.offset = offset
  cases b with
  | true => exact ⟨⟨offset, offset + 4⟩, ⟨offset + 4, t⟩, rfl, rfl⟩
  | false => exact ⟨⟨offset, offset + 5⟩, ⟨offset + 5, t⟩, rfl, rfl⟩

/-- The decimal form of a number of 64 bits is read if no number goes on after it. -/
theorem word_complete (before : List UInt8) {n : Nat} (hfits : n < UInt64.size)
    (hbefore : IsBlank before) (ht : Ends t) (h : input.rest = before ++ (digits n ++ t))
    (fuel : Nat) :
    ∃ span after, valueNode (fuel + 1) .whole input = (.scalar span (.int n), some after) ∧
      after.rest = t := by
  obtain ⟨b, bs, hb, hdigit⟩ := digits_begin n
  obtain ⟨last, hnumber⟩ := number_nat hfits ht input.skipBlank.offset
  rw [hb, List.cons_append] at h hnumber
  refine ⟨⟨input.skipBlank.offset, last⟩, ⟨last, t⟩, ?_, rfl⟩
  rw [valueNode_blank fuel .whole hbefore (solid_cons (begins_digit hdigit).1 _) h,
    valueNode_digit hdigit, hnumber]
  rfl

/-! ## Values with parts -/

/-- Read the value of an entry; the input stands after its key. -/
def entryValue (fuel : Nat) (plan : Plan) (name : String) (input : Input) :
    JsonNode × Option Input :=
  match colon input with
  | .error e => (.broken e, none)
  | .ok input =>
      match plan.entry? name with
      | some plan => valueNode fuel plan input
      | none =>
          match skipValue input with
          | .error e => (.broken e, none)
          | .ok after => (.skipped ⟨input.offset, after.offset⟩, some after)

/-- The value of an entry that is read follows a colon. It is read as the plan asks for it, or
passed over if the plan leaves it out. -/
theorem entryValue_sound {fuel : Nat} {plan : Plan} {name : String} {value : JsonNode}
    (h : entryValue fuel plan name input = (value, some after)) :
    ∃ before inner, IsBlank before ∧ input.rest = before ++ 0x3A :: inner.rest ∧
      match plan.entry? name with
      | some known => valueNode fuel known inner = (value, some after)
      | none => skipValue inner = .ok after ∧ ∃ span, value = .skipped span := by
  unfold entryValue at h
  split at h
  · cases (Prod.mk.inj h).2
  · rename_i inner hcolon
    obtain ⟨before, hbefore, hrest⟩ := colon_sound hcolon
    refine ⟨before, inner, hbefore, hrest, ?_⟩
    split at h
    · exact h
    · split at h
      · cases (Prod.mk.inj h).2
      · rename_i next hskip
        obtain ⟨rfl, hnext⟩ := Prod.mk.inj h
        obtain rfl := Option.some.inj hnext
        exact ⟨hskip, _, rfl⟩

theorem entryValue_known {fuel : Nat} {plan known : Plan} {name : String} {inner : Input}
    (hcolon : colon input = .ok inner) (hplan : plan.entry? name = some known) :
    entryValue fuel plan name input = valueNode fuel known inner := by
  unfold entryValue
  rw [hcolon]
  simp only [hplan]

theorem entryValue_skipped (fuel : Nat) {plan : Plan} {name : String} {inner : Input}
    (hcolon : colon input = .ok inner) (hplan : plan.entry? name = none)
    (hskip : skipValue inner = .ok after) :
    entryValue fuel plan name input =
      (.skipped ⟨inner.offset, after.offset⟩, some after) := by
  unfold entryValue
  rw [hcolon]
  simp only [hplan, hskip]

theorem entryNodes_succ (fuel : Nat) (plan : Plan) (first : Bool) (input : Input) :
    entryNodes (fuel + 1) plan first input =
      match nextItem? .object first input with
      | .error e => ([], .error e)
      | .ok none => ([], .ok (input.skipBlank.advance 1))
      | .ok (some item) =>
          match keyNode item with
          | .error e => ([], .error e)
          | .ok (name, key, last) =>
              let value := entryValue fuel plan name last
              match value.2 with
              | none => ([(key, value.1)], .error ⟨.eofInObject, last.offset⟩)
              | some next =>
                  ((key, value.1) :: (entryNodes fuel plan false next).1,
                    (entryNodes fuel plan false next).2) := by
  rw [entryNodes]
  rfl

/-- The entries of an object are read to its end, or one after another. -/
theorem entryNodes_eq_ok_iff {fuel : Nat} {plan : Plan} {first : Bool}
    {entries : List (JsonNode × JsonNode)} :
    entryNodes (fuel + 1) plan first input = (entries, .ok after) ↔
      (nextItem? .object first input = .ok none ∧ entries = [] ∧
        after = input.skipBlank.advance 1) ∨
      ∃ item name key last value next others, nextItem? .object first input = .ok (some item) ∧
        keyNode item = .ok (name, key, last) ∧
        entryValue fuel plan name last = (value, some next) ∧
        entryNodes fuel plan false next = (others, .ok after) ∧
        entries = (key, value) :: others := by
  rw [entryNodes_succ]
  constructor
  · intro h
    split at h
    · cases (Prod.mk.inj h).2
    · rename_i hnext
      obtain ⟨rfl, hafter⟩ := Prod.mk.inj h
      exact .inl ⟨hnext, rfl, (Except.ok.inj hafter).symm⟩
    · rename_i item hnext
      split at h
      · cases (Prod.mk.inj h).2
      · rename_i name key last hkey
        dsimp only at h
        split at h
        · cases (Prod.mk.inj h).2
        · rename_i next hvalue
          obtain ⟨rfl, hafter⟩ := Prod.mk.inj h
          exact .inr ⟨item, name, key, last, _, next, _, hnext, hkey, Prod.ext rfl hvalue,
            Prod.ext rfl hafter, rfl⟩
  · rintro (⟨hnext, rfl, rfl⟩ | ⟨item, name, key, last, value, next, others, hnext, hkey, hvalue,
      hothers, rfl⟩)
    · rw [hnext]
    · simp only [hnext, hkey, hvalue, hothers]

/-- The items of a list are read to its end, or one after another. -/
theorem itemNodes_eq_ok_iff {fuel : Nat} {first : Bool} {items : List JsonNode} :
    itemNodes (fuel + 1) first input = (items, .ok after) ↔
      (nextItem? .list first input = .ok none ∧ items = [] ∧
        after = input.skipBlank.advance 1) ∨
      ∃ item value next others, nextItem? .list first input = .ok (some item) ∧
        valueNode fuel .whole item = (value, some next) ∧ (∀ e, value ≠ .broken e) ∧
        itemNodes fuel false next = (others, .ok after) ∧ items = value :: others := by
  constructor
  · intro h
    rw [itemNodes] at h
    split at h
    · cases (Prod.mk.inj h).2
    · rename_i hnext
      obtain ⟨rfl, hafter⟩ := Prod.mk.inj h
      exact .inl ⟨hnext, rfl, (Except.ok.inj hafter).symm⟩
    · rename_i item hnext
      split at h
      · cases (Prod.mk.inj h).2
      · cases (Prod.mk.inj h).2
      · rename_i value next hbroken hvalue
        obtain ⟨rfl, hafter⟩ := Prod.mk.inj h
        exact .inr ⟨item, value, next, _, hnext, hvalue, hbroken, Prod.ext rfl hafter, rfl⟩
  · rintro (⟨hnext, rfl, rfl⟩ | ⟨item, value, next, others, hnext, hvalue, hwhole, hothers, rfl⟩)
    · rw [itemNodes, hnext]
    · exact itemNodes_item hnext hvalue hwhole hothers

/-- A value that begins where an item of a list may stand. -/
theorem nextItem_value (first : Bool) {before v : List UInt8} (hv : IsValue v)
    (hbefore : IsBlank before)
    (h : if first then input.rest = before ++ (v ++ t)
      else ∃ between, IsBlank between ∧ input.rest = between ++ 0x2C :: (before ++ (v ++ t))) :
    ∃ item, nextItem? .list first input = .ok (some item) ∧ item.rest = v ++ t := by
  obtain ⟨b, bs, rfl, hblank, hne, -⟩ := value_begins hv
  cases first with
  | true =>
      rw [if_pos rfl] at h
      obtain ⟨hnext, hitem⟩ := nextItem_begin (c := .list) hbefore hblank hne nofun h
      exact ⟨_, hnext, hitem⟩
  | false =>
      rw [if_neg Bool.false_ne_true] at h
      obtain ⟨between, hbetween, h⟩ := h
      exact nextItem_next (c := .list) hbetween hbefore hblank hne nofun h

theorem itemNodes_closing (fuel : Nat) (first : Bool) {before : List UInt8}
    (hbefore : IsBlank before) (h : input.rest = before ++ 0x5D :: s) :
    ∃ after, itemNodes (fuel + 1) first input = ([], .ok after) ∧ after.rest = s := by
  obtain ⟨hnext, hafter⟩ := nextItem_closing (c := .list) hbefore h
  exact ⟨_, itemNodes_eq_ok_iff.mpr (.inl ⟨hnext, rfl, rfl⟩), hafter⟩

theorem itemNodes_nil_sound {fuel : Nat} {first : Bool}
    (h : itemNodes fuel first input = ([], .ok after)) :
    ∃ before, IsBlank before ∧ input.rest = before ++ 0x5D :: after.rest := by
  cases fuel with
  | zero => cases (Prod.mk.inj h).2
  | succ fuel =>
      rcases itemNodes_eq_ok_iff.mp h with ⟨hnext, -, rfl⟩ | ⟨_, _, _, _, -, -, -, -, hcons⟩
      · exact nextItem_sound hnext
      · cases hcons

theorem itemNodes_cons_sound {fuel : Nat} {first : Bool} {value : JsonNode}
    {others : List JsonNode} (h : itemNodes fuel first input = (value :: others, .ok after)) :
    ∃ fuel' item next, nextItem? .list first input = .ok (some item) ∧
      valueNode fuel' .whole item = (value, some next) ∧
      itemNodes fuel' false next = (others, .ok after) := by
  cases fuel with
  | zero => cases (Prod.mk.inj h).2
  | succ fuel =>
      rcases itemNodes_eq_ok_iff.mp h with ⟨-, hnil, -⟩ |
        ⟨item, _, next, _, hnext, hvalue, -, hothers, hcons⟩
      · cases hnil
      · obtain ⟨rfl, rfl⟩ := List.cons.inj hcons
        exact ⟨fuel, item, next, hnext, hvalue, hothers⟩

/-- A complete list or table is read from its opening to its end. -/
theorem valueNode_parts {fuel : Nat} {plan : Plan} {node : JsonNode} {rest : Option Input}
    (h : valueNode (fuel + 1) plan input = (node, rest)) :
    match node with
    | .list _ items none => ∃ s after, input.skipBlank.rest = 0x5B :: s ∧ rest = some after ∧
        itemNodes fuel true (input.skipBlank.advance 1) = (items, .ok after)
    | .table _ entries none => ∃ s after, input.skipBlank.rest = 0x7B :: s ∧ rest = some after ∧
        entryNodes fuel plan true (input.skipBlank.advance 1) = (entries, .ok after)
    | _ => True := by
  rw [valueNode] at h
  dsimp only at h
  split at h
  · obtain ⟨rfl, -⟩ := Prod.mk.inj h
    trivial
  · rename_i b tail hrest
    rw [hrest]
    split_ifs at h with hnull htrue hfalse hminus hdigit hquote hlist hobject
    case pos | pos | pos | pos | pos | pos =>
      unfold scalarNode at h
      split at h <;>
      · obtain ⟨rfl, -⟩ := Prod.mk.inj h
        trivial
    · split at h
      · rename_i after hitems
        obtain ⟨rfl, rfl⟩ := Prod.mk.inj h
        exact ⟨tail, after, by rw [hlist], rfl, Prod.ext rfl hitems⟩
      · obtain ⟨rfl, -⟩ := Prod.mk.inj h
        trivial
    · split at h
      · rename_i after hentries
        obtain ⟨rfl, rfl⟩ := Prod.mk.inj h
        exact ⟨tail, after, by rw [hobject], rfl, Prod.ext rfl hentries⟩
      · obtain ⟨rfl, -⟩ := Prod.mk.inj h
        trivial
    · obtain ⟨rfl, -⟩ := Prod.mk.inj h
      trivial

/-- A record is read if its document stands for one and has nothing but blank space after it. -/
theorem readRecord_eq_ok_iff {δ α : Type} {shape : Dialect → Shape Error δ α} {plan : Plan}
    {source : List UInt8} {a : α} :
    readRecord shape plan source = .ok a ↔
      (shape dialect).read dialect [] (document plan source).1 = .ok a ∧
        ∀ last, (document plan source).2 = some last → IsBlank last.rest := by
  unfold readRecord
  dsimp only
  cases (shape dialect).read dialect [] (document plan source).1 with
  | error fault => simp
  | ok record =>
      cases (document plan source).2 with
      | none => simp
      | some last =>
          simp only [Option.some.injEq, forall_eq', ← skipBlank_eq_nil_iff]
          cases last.skipBlank.rest with
          | nil => simp
          | cons b rest => simp

end GaleraProxy.Json
