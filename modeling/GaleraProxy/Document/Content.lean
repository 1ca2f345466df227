import GaleraProxy.Document.Record
import GaleraProxy.Json.Value

/-!
# The content of a document tree

`Shows depth node v` says that a node of a document tree stands for the value `v`, whatever notation
the tree comes from. Collections below the given depth may have been passed over by the reader of
the notation, everything above is there completely.
-/

namespace GaleraProxy

namespace Document

/-- The text with which a scalar is written, if it is one of its own or has one. -/
def Scalar.written? : Scalar → Option String
  | .text s | .unquoted s _ | .typed s _ _ _ => some s
  | .null | .bool _ | .int _ | .real _ => none

/-- What a scalar tells. A text is written as it reads. -/
inductive Scalar.Tells (s : Scalar) : Json → Prop where
  | flag (b : Bool) (reading : s.reading = .bool b) : Scalar.Tells s (.bool b)
  | whole (n : Int) (reading : s.reading = .int n) : Scalar.Tells s (.int n)
  | text (t : String) (reading : s.reading = .text t) (written : s.written? = some t) :
      Scalar.Tells s (.text t)

variable {ε : Type}

mutual

/-- A node stands for a value. -/
inductive Shows : Nat → Node ε → Json → Prop where
  | scalar {depth : Nat} (span : Span) {s : Scalar} {v : Json} (full : s.isBlank = false)
      (htells : s.Tells v) : Shows depth (.scalar span s) v
  | list {depth : Nat} (span : Span) {items : List (Node ε)} {vs : List Json} :
      ShowsItems (depth - 1) items vs → Shows depth (.list span items none) (.list vs)
  | table {depth : Nat} (span : Span) {entries : List (Node ε × Node ε)}
      {members : List (String × Json)} :
      ShowsEntries (depth - 1) entries members →
        Shows depth (.table span entries none) (.object members)
  | skippedList (span : Span) (vs : List Json) : Shows 0 (.skipped span) (.list vs)
  | skippedTable (span : Span) (members : List (String × Json)) :
      Shows 0 (.skipped span) (.object members)

/-- The items of a list stand for values one by one. -/
inductive ShowsItems : Nat → List (Node ε) → List Json → Prop where
  | nil {depth : Nat} : ShowsItems depth [] []
  | cons {depth : Nat} {item : Node ε} {items : List (Node ε)} {v : Json} {vs : List Json} :
      Shows depth item v → ShowsItems depth items vs →
        ShowsItems depth (item :: items) (v :: vs)

/-- The entries of a table stand for members one by one. Keys are taken as they are written. -/
inductive ShowsEntries : Nat → List (Node ε × Node ε) → List (String × Json) → Prop where
  | nil {depth : Nat} : ShowsEntries depth [] []
  | cons {depth : Nat} (span : Span) {s : Scalar} {key : String} {value : Node ε}
      {entries : List (Node ε × Node ε)} {v : Json} {members : List (String × Json)} :
      s.written? = some key → Shows depth value v → ShowsEntries depth entries members →
        ShowsEntries depth ((.scalar span s, value) :: entries) ((key, v) :: members)

end

/-- What a scalar tells can be read off it. -/
def Scalar.decideTells (s : Scalar) : (v : Json) → Decidable (s.Tells v)
  | .bool b => decidable_of_iff (s.reading = .bool b) ⟨.flag b, fun | .flag _ h => h⟩
  | .int n => decidable_of_iff (s.reading = .int n) ⟨.whole n, fun | .whole _ h => h⟩
  | .text t =>
      decidable_of_iff (s.reading = .text t ∧ s.written? = some t)
        ⟨fun h => .text t h.1 h.2, fun | .text _ h h' => ⟨h, h'⟩⟩
  | .null => isFalse nofun
  | .list _ => isFalse nofun
  | .object _ => isFalse nofun

mutual

/-- Whether a node stands for a value. -/
def Shows.decide : (depth : Nat) → (node : Node ε) → (v : Json) → Decidable (Shows depth node v)
  | _, .scalar span s, v =>
      have : Decidable (s.Tells v) := s.decideTells v
      decidable_of_iff (s.isBlank = false ∧ s.Tells v)
        ⟨fun h => .scalar span h.1 h.2, fun | .scalar _ h h' => ⟨h, h'⟩⟩
  | depth, .list span items none, .list vs =>
      have : Decidable (ShowsItems (depth - 1) items vs) := ShowsItems.decide (depth - 1) items vs
      decidable_of_iff (ShowsItems (depth - 1) items vs) ⟨.list span, fun | .list _ h => h⟩
  | depth, .table span entries none, .object members =>
      have : Decidable (ShowsEntries (depth - 1) entries members) :=
        ShowsEntries.decide (depth - 1) entries members
      decidable_of_iff (ShowsEntries (depth - 1) entries members)
        ⟨.table span, fun | .table _ h => h⟩
  | 0, .skipped span, .list vs => isTrue (.skippedList span vs)
  | 0, .skipped span, .object members => isTrue (.skippedTable span members)
  | _ + 1, .skipped _, _ | _, .broken _, _ | _, .list _ _ (some _), _ | _, .table _ _ (some _), _ =>
      isFalse nofun
  | _, .list _ _ none, .null | _, .list _ _ none, .bool _ | _, .list _ _ none, .int _
  | _, .list _ _ none, .text _ | _, .list _ _ none, .object _ => isFalse nofun
  | _, .table _ _ none, .null | _, .table _ _ none, .bool _ | _, .table _ _ none, .int _
  | _, .table _ _ none, .text _ | _, .table _ _ none, .list _ => isFalse nofun
  | 0, .skipped _, .null | 0, .skipped _, .bool _ | 0, .skipped _, .int _
  | 0, .skipped _, .text _ => isFalse nofun

/-- Whether the items of a list stand for values. -/
def ShowsItems.decide : (depth : Nat) → (items : List (Node ε)) → (vs : List Json) →
    Decidable (ShowsItems depth items vs)
  | _, [], [] => isTrue .nil
  | depth, item :: items, v :: vs =>
      have : Decidable (Shows depth item v) := Shows.decide depth item v
      have : Decidable (ShowsItems depth items vs) := ShowsItems.decide depth items vs
      decidable_of_iff (Shows depth item v ∧ ShowsItems depth items vs)
        ⟨fun h => .cons h.1 h.2, fun | .cons h h' => ⟨h, h'⟩⟩
  | _, [], _ :: _ | _, _ :: _, [] => isFalse nofun

/-- Whether the entries of a table stand for members. -/
def ShowsEntries.decide : (depth : Nat) → (entries : List (Node ε × Node ε)) →
    (members : List (String × Json)) → Decidable (ShowsEntries depth entries members)
  | _, [], [] => isTrue .nil
  | depth, (.scalar span s, value) :: entries, (key, v) :: members =>
      have : Decidable (Shows depth value v) := Shows.decide depth value v
      have : Decidable (ShowsEntries depth entries members) :=
        ShowsEntries.decide depth entries members
      decidable_of_iff
        (s.written? = some key ∧ Shows depth value v ∧ ShowsEntries depth entries members)
        ⟨fun h => .cons span h.1 h.2.1 h.2.2, fun | .cons _ h h' h'' => ⟨h, h', h''⟩⟩
  | _, [], _ :: _ | _, _ :: _, [] => isFalse nofun
  | _, (.list .., _) :: _, _ :: _ | _, (.table .., _) :: _, _ :: _
  | _, (.skipped _, _) :: _, _ :: _ | _, (.broken _, _) :: _, _ :: _ => isFalse nofun

end

instance (depth : Nat) (node : Node ε) (v : Json) : Decidable (Shows depth node v) :=
  Shows.decide depth node v

end Document

/-- Two documents that differ at most in the order of their keys, at any level. -/
inductive Json.Reordered : Json → Json → Prop where
  | refl (v : Json) : Json.Reordered v v
  | trans {u v w : Json} : Json.Reordered u v → Json.Reordered v w → Json.Reordered u w
  | keys {members members' : List (String × Json)} : members.Perm members' →
      Json.Reordered (.object members) (.object members')
  | item {v w : Json} (front back : List Json) : Json.Reordered v w →
      Json.Reordered (.list (front ++ v :: back)) (.list (front ++ w :: back))
  | member {v w : Json} (front : List (String × Json)) (key : String)
      (back : List (String × Json)) : Json.Reordered v w →
      Json.Reordered (.object (front ++ (key, v) :: back)) (.object (front ++ (key, w) :: back))

mutual

/-- Whether no key is repeated in an object, at any level. -/
def Json.keysDistinct : Json → Bool
  | .null | .bool _ | .int _ | .text _ => true
  | .list items => Json.keysDistinctItems items
  | .object members => decide (members.map (·.1)).Nodup && Json.keysDistinctMembers members

/-- `keysDistinct` for each item. -/
def Json.keysDistinctItems : List Json → Bool
  | [] => true
  | v :: vs => Json.keysDistinct v && Json.keysDistinctItems vs

/-- `keysDistinct` for the value of each member. -/
def Json.keysDistinctMembers : List (String × Json) → Bool
  | [] => true
  | (_, v) :: members => Json.keysDistinct v && Json.keysDistinctMembers members

end

end GaleraProxy
