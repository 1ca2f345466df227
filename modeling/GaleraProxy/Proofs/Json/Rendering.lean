import GaleraProxy.Document.Content
import GaleraProxy.Json.Document
import GaleraProxy.Proofs.Json.Number

/-!
# Values that are written are read back

`document_render` says that the compact text of a value is a document that stands for the value, if
every reader can take the value. `ReadBack` is what the induction on the value carries: the text of
a part is read up to its end, whatever follows it in the text of the whole.
-/

namespace GaleraProxy.Json

open Document

mutual

/-- Values that every reader of documents can take: no null, and whole numbers of 64 bits only. -/
def Portable : Json → Prop
  | .null => False
  | .bool _ | .text _ => True
  | .int n => Int64.minValue.toInt ≤ n ∧ n < UInt64.size
  | .list items => PortableItems items
  | .object members => PortableMembers members

/-- `Portable` for each item. -/
def PortableItems : List Json → Prop
  | [] => True
  | v :: vs => Portable v ∧ PortableItems vs

/-- `Portable` for the value of each member. -/
def PortableMembers : List (String × Json) → Prop
  | [] => True
  | (_, v) :: members => Portable v ∧ PortableMembers members

end

/-! ## The beginnings of values -/

/-- A byte that begins a value: it is not blank, and it does not end a list or an object. -/
def Begins (b : UInt8) : Prop := isBlank b = false ∧ b ≠ 0x5D ∧ b ≠ 0x7D

/-- A digit begins numbers and nothing else. -/
theorem ne_of_isDigit {b other : UInt8} (h : isDigit b = true) (hother : isDigit other = false) :
    b ≠ other := by
  rintro rfl
  rw [h] at hother
  cases hother

theorem begins_digit {b : UInt8} (h : isDigit b = true) : Begins b := by
  have hne : ∀ other, isDigit other = false → b ≠ other := fun _ => ne_of_isDigit h
  refine ⟨?_, hne 0x5D rfl, hne 0x7D rfl⟩
  simp [isBlank, hne 0x20 rfl, hne 0x0A rfl, hne 0x0D rfl, hne 0x09 rfl]

/-- Every value begins with a byte that begins values. -/
theorem chars_begin (v : Json) : ∃ b bs, Utf8.bytes (chars v) = b :: bs ∧ Begins b := by
  have hbegins : ∀ b, isBlank b = false ∧ b ≠ 0x5D ∧ b ≠ 0x7D → Begins b := fun _ h => h
  cases v with
  | null => exact ⟨_, _, rfl, hbegins _ (by decide)⟩
  | bool b => cases b <;> exact ⟨_, _, rfl, hbegins _ (by decide)⟩
  | int n =>
      cases n with
      | ofNat n =>
          obtain ⟨b, bs, hb, hdigit⟩ := digits_begin n
          exact ⟨b, bs, (toString_natCast n).trans hb, begins_digit hdigit⟩
      | negSucc n => exact ⟨_, _, toString_negSucc n, hbegins _ (by decide)⟩
  | text s => exact ⟨_, _, rfl, hbegins _ (by decide)⟩
  | list items => cases items <;> exact ⟨_, _, rfl, hbegins _ (by decide)⟩
  | object members => cases members <;> exact ⟨_, _, rfl, hbegins _ (by decide)⟩

theorem skipBlank_cons {b : UInt8} (h : isBlank b = false) (offset : Nat) (rest : List UInt8) :
    Input.skipBlank ⟨offset, b :: rest⟩ = ⟨offset, b :: rest⟩ := by
  show skipBlankFrom offset (b :: rest) = _
  rw [skipBlankFrom, if_neg (by simp [h])]

/-! ## One step of reading -/

theorem valueNode_quote (fuel offset : Nat) (rest : List UInt8) :
    valueNode (fuel + 1) .whole ⟨offset, 0x22 :: rest⟩ =
      scalarNode offset
        ((textBody ⟨offset + 1, rest⟩).map fun (s, after) => (Scalar.text s, after)) := rfl

theorem valueNode_minus (fuel offset : Nat) (rest : List UInt8) :
    valueNode (fuel + 1) .whole ⟨offset, 0x2D :: rest⟩ =
      scalarNode offset (number true ⟨offset + 1, rest⟩) := rfl

theorem valueNode_digit {b : UInt8} (h : isDigit b = true) (fuel offset : Nat)
    (rest : List UInt8) :
    valueNode (fuel + 1) .whole ⟨offset, b :: rest⟩ =
      scalarNode offset (number false ⟨offset, b :: rest⟩) := by
  have hne : ∀ other, isDigit other = false → b ≠ other := fun _ => ne_of_isDigit h
  rw [valueNode, skipBlank_cons (begins_digit h).1]
  simp only [if_neg (hne 0x6E rfl), if_neg (hne 0x74 rfl), if_neg (hne 0x66 rfl),
    if_neg (hne 0x2D rfl), if_pos h]

/-- A list whose items are read up to its end is complete. -/
theorem valueNode_list {plan : Plan} {fuel offset : Nat} {rest : List UInt8}
    {items : List JsonNode} {after : Input}
    (h : itemNodes fuel true ⟨offset + 1, rest⟩ = (items, .ok after)) :
    valueNode (fuel + 1) plan ⟨offset, 0x5B :: rest⟩ =
      (.list ⟨offset, after.offset⟩ items none, some after) := by
  have hbracket : Input.skipBlank ⟨offset, 0x5B :: rest⟩ = ⟨offset, 0x5B :: rest⟩ := rfl
  have hnext : Input.advance ⟨offset, 0x5B :: rest⟩ 1 = ⟨offset + 1, rest⟩ := rfl
  rw [valueNode, hbracket, hnext, h]
  rfl

/-- An object whose entries are read up to its end is complete. -/
theorem valueNode_object {plan : Plan} {fuel offset : Nat} {rest : List UInt8}
    {entries : List (JsonNode × JsonNode)} {after : Input}
    (h : entryNodes fuel plan true ⟨offset + 1, rest⟩ = (entries, .ok after)) :
    valueNode (fuel + 1) plan ⟨offset, 0x7B :: rest⟩ =
      (.table ⟨offset, after.offset⟩ entries none, some after) := by
  have hbrace : Input.skipBlank ⟨offset, 0x7B :: rest⟩ = ⟨offset, 0x7B :: rest⟩ := rfl
  have hnext : Input.advance ⟨offset, 0x7B :: rest⟩ 1 = ⟨offset + 1, rest⟩ := rfl
  rw [valueNode, hbrace, hnext, h]
  rfl

/-- The first item of a list follows its bracket. -/
theorem nextItem_first {b : UInt8} (h : Begins b) (offset : Nat) (rest : List UInt8) :
    nextItem? .list true ⟨offset, b :: rest⟩ = .ok (some ⟨offset, b :: rest⟩) := by
  have hclosing : b ≠ Container.list.closing := h.2.1
  unfold nextItem?
  simp only [skipBlank_cons h.1]
  rw [if_neg hclosing]
  rfl

/-- A further item follows a comma. -/
theorem nextItem_comma {b : UInt8} (h : Begins b) (offset : Nat) (rest : List UInt8) :
    nextItem? .list false ⟨offset, 0x2C :: b :: rest⟩ = .ok (some ⟨offset + 1, b :: rest⟩) := by
  have hnext : (Input.advance ⟨offset, 0x2C :: b :: rest⟩ 1).skipBlank = ⟨offset + 1, b :: rest⟩ :=
    skipBlank_cons h.1 _ _
  have hclosing : b ≠ Container.list.closing := h.2.1
  unfold nextItem?
  simp only [skipBlank_cons (show isBlank 0x2C = false from rfl), hnext, if_neg hclosing]
  rfl

/-- The first key of an object follows its brace, and a further one a comma. -/
theorem nextItem_key (offset : Nat) (rest : List UInt8) :
    nextItem? .object true ⟨offset, 0x22 :: rest⟩ = .ok (some ⟨offset, 0x22 :: rest⟩) ∧
      nextItem? .object false ⟨offset, 0x2C :: 0x22 :: rest⟩ =
        .ok (some ⟨offset + 1, 0x22 :: rest⟩) :=
  ⟨rfl, rfl⟩

/-- An item that is not broken is followed by the others. -/
theorem itemNodes_item {fuel : Nat} {first : Bool} {input at' after last : Input}
    {item : JsonNode} {items : List JsonNode}
    (hnext : nextItem? .list first input = .ok (some at'))
    (hitem : valueNode fuel .whole at' = (item, some after)) (hwhole : ∀ e, item ≠ .broken e)
    (hitems : itemNodes fuel false after = (items, .ok last)) :
    itemNodes (fuel + 1) first input = (item :: items, .ok last) := by
  rw [itemNodes, hnext]
  cases item with
  | broken e => exact absurd rfl (hwhole e)
  | _ => simp only [hitem, hitems]

/-- An entry is a key, a colon and a value, and is followed by the others. -/
theorem entryNodes_entry {fuel offset colonAt : Nat} {first : Bool} {input after last : Input}
    {text rest : List UInt8} {key : String} {value : JsonNode}
    {entries : List (JsonNode × JsonNode)}
    (hnext : nextItem? .object first input = .ok (some ⟨offset, 0x22 :: text⟩))
    (hkey : textBody ⟨offset + 1, text⟩ = .ok (key, ⟨colonAt, 0x3A :: rest⟩))
    (hvalue : valueNode fuel .whole ⟨colonAt + 1, rest⟩ = (value, some after))
    (hentries : entryNodes fuel .whole false after = (entries, .ok last)) :
    entryNodes (fuel + 1) .whole first input =
      ((.scalar ⟨offset, colonAt⟩ (.text key), value) :: entries, .ok last) := by
  have hnode : keyNode ⟨offset, 0x22 :: text⟩ =
      .ok (key, .scalar ⟨offset, colonAt⟩ (.text key), ⟨colonAt, 0x3A :: rest⟩) := by
    show (textBody ⟨offset + 1, text⟩ >>= fun (name, after) =>
      pure (name, Node.scalar ⟨offset, after.offset⟩ (.text name), after)) = _
    rw [hkey]
    rfl
  have hcolon : colon ⟨colonAt, 0x3A :: rest⟩ = .ok ⟨colonAt + 1, rest⟩ := rfl
  rw [entryNodes, hnext]
  simp only [hnode, hcolon, Plan.entry?, hvalue, hentries]

/-! ## Whole values -/

/-- A value that is read back wherever it is written, with fuel for all that is left to read. -/
def ReadBack (v : Json) : Prop :=
  ∀ fuel offset rest, Follows rest → 2 * (Utf8.bytes (chars v) ++ rest).length < fuel →
    ∃ node offset', valueNode fuel .whole ⟨offset, Utf8.bytes (chars v) ++ rest⟩ =
      (node, some ⟨offset', rest⟩) ∧ ∀ depth, Shows depth node v

/-- Items that are read back up to the end of their list. -/
def ReadBackItems (vs : List Json) : Prop :=
  ∀ fuel offset rest, 2 * (Utf8.bytes (itemChars vs) ++ rest).length + 1 < fuel →
    ∃ items offset', itemNodes fuel false ⟨offset, Utf8.bytes (itemChars vs) ++ rest⟩ =
      (items, .ok ⟨offset', rest⟩) ∧ ∀ depth, ShowsItems depth items vs

/-- Members that are read back up to the end of their object. -/
def ReadBackMembers (members : List (String × Json)) : Prop :=
  ∀ fuel offset rest, 2 * (Utf8.bytes (memberChars members) ++ rest).length + 1 < fuel →
    ∃ entries offset',
      entryNodes fuel .whole false ⟨offset, Utf8.bytes (memberChars members) ++ rest⟩ =
        (entries, .ok ⟨offset', rest⟩) ∧ ∀ depth, ShowsEntries depth entries members

/-- What comes after an item of a list does not go on with it. -/
theorem follows_items (vs : List Json) (rest : List UInt8) :
    Follows (Utf8.bytes (itemChars vs) ++ rest) := by
  cases vs with
  | nil => exact .bracket rest
  | cons v vs => exact .comma _

/-- What comes after a member of an object does not go on with it. -/
theorem follows_members (members : List (String × Json)) (rest : List UInt8) :
    Follows (Utf8.bytes (memberChars members) ++ rest) := by
  cases members with
  | nil => exact .brace rest
  | cons m members => exact .comma _

theorem readBack_bool (b : Bool) : ReadBack (.bool b) := by
  intro fuel offset rest _ hfuel
  obtain ⟨fuel, rfl⟩ := Nat.exists_eq_add_of_lt hfuel
  cases b with
  | true =>
      refine ⟨.scalar ⟨offset, offset + 4⟩ (.bool true), offset + 4, rfl, fun depth => ?_⟩
      exact .scalar _ rfl (.flag true rfl)
  | false =>
      refine ⟨.scalar ⟨offset, offset + 5⟩ (.bool false), offset + 5, rfl, fun depth => ?_⟩
      exact .scalar _ rfl (.flag false rfl)

theorem readBack_int {n : Int} (h : Int64.minValue.toInt ≤ n ∧ n < UInt64.size) :
    ReadBack (.int n) := by
  intro fuel offset rest hrest hfuel
  obtain ⟨fuel, rfl⟩ := Nat.exists_eq_add_of_lt hfuel
  have hshows : ∀ span depth, Shows (ε := Error) depth (.scalar span (.int n)) (.int n) :=
    fun span _ => .scalar span rfl (.whole n rfl)
  cases n with
  | ofNat n =>
      have hbytes : Utf8.bytes (chars (.int (Int.ofNat n))) = digits n := toString_natCast n
      obtain ⟨b, bs, hb, hdigit⟩ := digits_begin n
      have hfits : n < UInt64.size := Int.ofNat_lt.1 h.2
      obtain ⟨offset', hnumber⟩ := number_nat hfits hrest.ends offset
      refine ⟨_, offset', ?_, hshows ⟨offset, offset'⟩⟩
      rw [hb, List.cons_append] at hnumber
      rw [hbytes, hb, List.cons_append, valueNode_digit hdigit, hnumber]
      rfl
  | negSucc n =>
      have hbytes : Utf8.bytes (chars (.int (Int.negSucc n))) = 0x2D :: digits (n + 1) :=
        toString_negSucc n
      have hfits : n + 1 ≤ Int64.minValue.toInt.natAbs := by
        have hle := h.1
        rw [Int.negSucc_eq] at hle
        omega
      obtain ⟨offset', hnumber⟩ := number_neg (Nat.succ_pos n) hfits hrest.ends (offset + 1)
      refine ⟨_, offset', ?_, hshows ⟨offset, offset'⟩⟩
      rw [hbytes, List.cons_append, valueNode_minus, hnumber]
      rfl

/-- A text between its quotes. -/
theorem bytes_renderText (s : String) (rest : List UInt8) :
    Utf8.bytes (renderText s) ++ rest =
      0x22 :: (Utf8.bytes (s.toList.flatMap escapeChar) ++ 0x22 :: rest) := by
  have hquote : String.utf8EncodeChar '"' = [0x22] := rfl
  rw [renderText, Utf8.bytes_cons, Utf8.bytes_append, Utf8.bytes_cons, Utf8.bytes_nil, hquote]
  simp

theorem readBack_text (s : String) : ReadBack (.text s) := by
  intro fuel offset rest _ hfuel
  obtain ⟨fuel, rfl⟩ := Nat.exists_eq_add_of_lt hfuel
  obtain ⟨offset', hread⟩ := textBody_renderText s (offset + 1) rest
  refine ⟨.scalar ⟨offset, offset'⟩ (.text s), offset', ?_, fun depth => ?_⟩
  · rw [chars, bytes_renderText, valueNode_quote, hread]
    rfl
  · exact .scalar _ rfl (.text s rfl rfl)

/-- Less is left to read after a value. -/
theorem length_lt_chars (v : Json) (rest : List UInt8) :
    rest.length < (Utf8.bytes (chars v) ++ rest).length := by
  obtain ⟨b, bs, hb, -⟩ := chars_begin v
  rw [hb, List.length_append, List.length_cons]
  omega

theorem bytes_list (v : Json) (vs : List Json) (rest : List UInt8) :
    Utf8.bytes (chars (.list (v :: vs))) ++ rest =
      0x5B :: (Utf8.bytes (chars v) ++ (Utf8.bytes (itemChars vs) ++ rest)) := by
  rw [chars, Utf8.bytes_cons, Utf8.bytes_append, List.append_assoc, List.append_assoc]
  rfl

theorem bytes_items (v : Json) (vs : List Json) (rest : List UInt8) :
    Utf8.bytes (itemChars (v :: vs)) ++ rest =
      0x2C :: (Utf8.bytes (chars v) ++ (Utf8.bytes (itemChars vs) ++ rest)) := by
  rw [itemChars, Utf8.bytes_cons, Utf8.bytes_append, List.append_assoc, List.append_assoc]
  rfl

theorem bytes_object (key : String) (v : Json) (members : List (String × Json))
    (rest : List UInt8) :
    Utf8.bytes (chars (.object ((key, v) :: members))) ++ rest =
      0x7B :: (Utf8.bytes (renderText key) ++
        0x3A :: (Utf8.bytes (chars v) ++ (Utf8.bytes (memberChars members) ++ rest))) := by
  rw [chars, Utf8.bytes_cons, Utf8.bytes_append, Utf8.bytes_cons, Utf8.bytes_append]
  simp only [List.append_assoc]
  rfl

theorem bytes_members (key : String) (v : Json) (members : List (String × Json))
    (rest : List UInt8) :
    Utf8.bytes (memberChars ((key, v) :: members)) ++ rest =
      0x2C :: (Utf8.bytes (renderText key) ++
        0x3A :: (Utf8.bytes (chars v) ++ (Utf8.bytes (memberChars members) ++ rest))) := by
  rw [memberChars, Utf8.bytes_cons, Utf8.bytes_append, Utf8.bytes_cons, Utf8.bytes_append]
  simp only [List.append_assoc]
  rfl

/-- An item and those after it are read back, once its place has been found. -/
theorem ReadBack.item {v : Json} {vs : List Json} (hv : ReadBack v) (hvs : ReadBackItems vs)
    (fuel : Nat) {offset : Nat} {first : Bool} {input : Input} {rest : List UInt8}
    (hnext : nextItem? .list first input =
      .ok (some ⟨offset, Utf8.bytes (chars v) ++ (Utf8.bytes (itemChars vs) ++ rest)⟩))
    (hfuel : 2 * (Utf8.bytes (chars v) ++ (Utf8.bytes (itemChars vs) ++ rest)).length + 1 < fuel) :
    ∃ items offset', itemNodes fuel first input = (items, .ok ⟨offset', rest⟩) ∧
      ∀ depth, ShowsItems depth items (v :: vs) := by
  obtain ⟨fuel, rfl⟩ := Nat.exists_eq_succ_of_ne_zero (Nat.ne_zero_of_lt hfuel)
  have hshorter := length_lt_chars v (Utf8.bytes (itemChars vs) ++ rest)
  -- twice what is left to read is enough for the item, and even more for what comes after it
  obtain ⟨item, after, hitem, hshows⟩ := hv fuel offset _ (follows_items vs rest) (by omega)
  obtain ⟨items, last, hitems, hshows'⟩ := hvs fuel after rest (by omega)
  have hwhole : ∀ e, item ≠ .broken e := by
    rintro e rfl
    cases hshows 0
  exact ⟨item :: items, last, itemNodes_item hnext hitem hwhole hitems,
    fun depth => .cons (hshows depth) (hshows' depth)⟩

/-- A member and those after it are read back, once the place of its key has been found. -/
theorem ReadBack.member {key : String} {v : Json} {members : List (String × Json)}
    (hv : ReadBack v) (hmembers : ReadBackMembers members) (fuel : Nat) {offset : Nat}
    {first : Bool} {input : Input} {rest : List UInt8}
    (hnext : nextItem? .object first input = .ok (some ⟨offset, Utf8.bytes (renderText key) ++
      0x3A :: (Utf8.bytes (chars v) ++ (Utf8.bytes (memberChars members) ++ rest))⟩))
    (hfuel : 2 * (Utf8.bytes (chars v) ++ (Utf8.bytes (memberChars members) ++ rest)).length + 1 <
      fuel) :
    ∃ entries offset', entryNodes fuel .whole first input = (entries, .ok ⟨offset', rest⟩) ∧
      ∀ depth, ShowsEntries depth entries ((key, v) :: members) := by
  obtain ⟨fuel, rfl⟩ := Nat.exists_eq_succ_of_ne_zero (Nat.ne_zero_of_lt hfuel)
  have hshorter := length_lt_chars v (Utf8.bytes (memberChars members) ++ rest)
  rw [bytes_renderText] at hnext
  obtain ⟨colonAt, hkey⟩ := textBody_renderText key (offset + 1)
    (0x3A :: (Utf8.bytes (chars v) ++ (Utf8.bytes (memberChars members) ++ rest)))
  obtain ⟨value, after, hvalue, hshows⟩ :=
    hv fuel (colonAt + 1) _ (follows_members members rest) (by omega)
  obtain ⟨entries, last, hentries, hshows'⟩ := hmembers fuel after rest (by omega)
  exact ⟨_, last, entryNodes_entry hnext hkey hvalue hentries,
    fun depth => .cons _ rfl (hshows depth) (hshows' depth)⟩

mutual

/-- A value is read back, whatever it is made of. The recursion is on its parts. -/
theorem readBack : ∀ {v : Json}, Portable v → ReadBack v
  | .null, h => h.elim
  | .bool b, _ => readBack_bool b
  | .int _, h => readBack_int h
  | .text s, _ => readBack_text s
  | .list [], _ => by
      intro fuel offset rest _ hfuel
      have hlength : (Utf8.bytes (chars (.list [])) ++ rest).length = rest.length + 2 := rfl
      obtain ⟨fuel, rfl⟩ := Nat.exists_eq_add_of_le' (show 2 ≤ fuel by omega)
      exact ⟨.list ⟨offset, offset + 2⟩ [] none, offset + 2, rfl, fun _ => .list _ .nil⟩
  | .list (v :: vs), h => by
      intro fuel offset rest _ hfuel
      obtain ⟨fuel, rfl⟩ := Nat.exists_eq_succ_of_ne_zero (Nat.ne_zero_of_lt hfuel)
      obtain ⟨b, bs, hb, hbegins⟩ := chars_begin v
      -- the bracket pays for entering the list
      rw [bytes_list, List.length_cons] at hfuel
      rw [bytes_list]
      have hnext := nextItem_first hbegins (offset + 1)
        (bs ++ (Utf8.bytes (itemChars vs) ++ rest))
      rw [← List.cons_append, ← hb] at hnext
      obtain ⟨items, last, hitems, hshows⟩ :=
        (readBack h.1).item (readBackItems h.2) fuel hnext (by omega)
      exact ⟨_, last, valueNode_list hitems, fun depth => .list _ (hshows (depth - 1))⟩
  | .object [], _ => by
      intro fuel offset rest _ hfuel
      have hlength : (Utf8.bytes (chars (.object [])) ++ rest).length = rest.length + 2 := rfl
      obtain ⟨fuel, rfl⟩ := Nat.exists_eq_add_of_le' (show 2 ≤ fuel by omega)
      exact ⟨.table ⟨offset, offset + 2⟩ [] none, offset + 2, rfl, fun _ => .table _ .nil⟩
  | .object ((key, v) :: members), h => by
      intro fuel offset rest _ hfuel
      obtain ⟨fuel, rfl⟩ := Nat.exists_eq_succ_of_ne_zero (Nat.ne_zero_of_lt hfuel)
      rw [bytes_object, List.length_cons, List.length_append, List.length_cons] at hfuel
      rw [bytes_object]
      have hnext := (nextItem_key (offset + 1) (Utf8.bytes (key.toList.flatMap escapeChar) ++
        0x22 :: 0x3A :: (Utf8.bytes (chars v) ++ (Utf8.bytes (memberChars members) ++ rest)))).1
      rw [← bytes_renderText] at hnext
      obtain ⟨entries, last, hentries, hshows⟩ :=
        (readBack h.1).member (readBackMembers h.2) fuel hnext (by omega)
      exact ⟨_, last, valueNode_object hentries, fun depth => .table _ (hshows (depth - 1))⟩

theorem readBackItems : ∀ {vs : List Json}, PortableItems vs → ReadBackItems vs
  | [], _ => by
      intro fuel offset rest hfuel
      obtain ⟨fuel, rfl⟩ := Nat.exists_eq_add_of_lt hfuel
      exact ⟨[], offset + 1, rfl, fun _ => .nil⟩
  | v :: vs, h => by
      intro fuel offset rest hfuel
      obtain ⟨b, bs, hb, hbegins⟩ := chars_begin v
      rw [bytes_items, List.length_cons] at hfuel
      rw [bytes_items]
      have hnext := nextItem_comma hbegins offset (bs ++ (Utf8.bytes (itemChars vs) ++ rest))
      rw [← List.cons_append, ← hb] at hnext
      exact (readBack h.1).item (readBackItems h.2) fuel hnext (by omega)

theorem readBackMembers : ∀ {members : List (String × Json)}, PortableMembers members →
    ReadBackMembers members
  | [], _ => by
      intro fuel offset rest hfuel
      obtain ⟨fuel, rfl⟩ := Nat.exists_eq_add_of_lt hfuel
      exact ⟨[], offset + 1, rfl, fun _ => .nil⟩
  | (key, v) :: members, h => by
      intro fuel offset rest hfuel
      rw [bytes_members, List.length_cons, List.length_append, List.length_cons] at hfuel
      rw [bytes_members]
      have hnext := (nextItem_key offset (Utf8.bytes (key.toList.flatMap escapeChar) ++
        0x22 :: 0x3A :: (Utf8.bytes (chars v) ++ (Utf8.bytes (memberChars members) ++ rest)))).2
      rw [← bytes_renderText] at hnext
      exact (readBack h.1).member (readBackMembers h.2) fuel hnext (by omega)

end

/-- The compact text of a value is a document that stands for the value, with nothing after it. -/
theorem document_render {v : Json} (h : Portable v) :
    ∃ node offset, document .whole (Utf8.encode v.render) = (node, some ⟨offset, []⟩) ∧
      ∀ depth, Shows depth node v := by
  have hbytes : Utf8.encode v.render = Utf8.bytes (chars v) ++ [] := by
    rw [render, Utf8.encode_ofList, List.append_nil]
  rw [hbytes]
  exact readBack h _ 0 [] .nothing (by omega)

end GaleraProxy.Json
