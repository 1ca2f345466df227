import GaleraProxy.Document.Fault

/-!
# Reading records out of a document

The readers take a node to a value of the program or to the first fault in document order. `record`
reads a table whose keys are the names of fields, each at most once; notations that allow it may
instead list the fields in order. What a field leaves unsaid is settled by the record's `finish`.
-/

namespace GaleraProxy.Document

/-- Whether a record may be written as a list, and what happens to items beyond its last field. -/
inductive RecordLists where
  | refused
  | exact
  | openEnded
  deriving DecidableEq, Repr

/-- What a notation allows: records as lists, and an empty unquoted scalar for an empty collection.
A negative number in the place of a natural one is out of range or of the wrong type. -/
structure Dialect where
  recordLists : RecordLists
  blankIsEmpty : Bool
  negativeIsOutOfRange : Bool

/-- The value that a scalar stands for where a text is not asked for. -/
def Scalar.reading : Scalar → Scalar
  | .unquoted _ reading | .typed _ reading _ _ => reading
  | other => other

/-- The value by which a scalar is known where it is refused. -/
def Scalar.shown : Scalar → Scalar
  | .unquoted _ reading => reading
  | .typed _ _ shown _ => shown
  | other => other

/-- How a fault names a scalar. -/
def Scalar.found (s : Scalar) : Found :=
  match s.shown with
  | .null => .null
  | .bool b => .flag b
  | .int n => .integer n
  | .real x => .real x
  | .text t | .unquoted t _ | .typed t _ _ _ => .text t

/-- Why a scalar is refused where another type was hoped for. -/
def Scalar.refusal (s : Scalar) (expected : Expected) : Cause :=
  match s with
  | .typed t _ _ (some type) => .outOfRange (.text t) (.declared type)
  | other => .wrongType other.found expected

/-- Whether a scalar is an unquoted empty text. -/
def Scalar.isBlank : Scalar → Bool
  | .unquoted "" _ | .typed "" _ _ _ => true
  | _ => false

section
variable {ε : Type}

/-- The outcome of reading a node. -/
abbrev Reading (ε α : Type) := Except (Fault ε) α

/-- Refuse a node where another type was hoped for. -/
def wrongType {α : Type} (path : Path) (n : Node ε) (expected : Expected) : Reading ε α :=
  match n with
  | .broken e => .error (.broken e)
  | .scalar span s => .error (.misfit (.own (s.refusal expected) .value span path))
  | .list span _ _ => .error (.misfit (.own (.wrongType .sequence expected) .opening span path))
  | .table span _ _ => .error (.misfit (.own (.wrongType .table expected) .opening span path))
  | .skipped span => .error (.misfit (.own (.wrongType .null expected) .value span path))

/-- Read a text. An unquoted scalar is taken as it is written. -/
def readText (expected : Expected) (path : Path) (n : Node ε) : Reading ε String :=
  match n with
  | .scalar _ (.text s) => .ok s
  | .scalar _ (.unquoted s _) | .scalar _ (.typed s _ _ _) => .ok s
  | other => wrongType path other expected

/-- Read a truth value. -/
def readFlag (path : Path) (n : Node ε) : Reading ε Bool :=
  match n with
  | .scalar span s =>
      match s.reading with
      | .bool b => .ok b
      | _ => wrongType path (.scalar span s) .flag
  | other => wrongType path other .flag

/-- Read a whole number below `bound`. -/
def readNat (d : Dialect) (bound : Nat) (expected : Expected) (path : Path) (n : Node ε) :
    Reading ε Nat :=
  match n with
  | .scalar span s =>
      match s.reading with
      | .int (.ofNat i) =>
          if i < bound then .ok i
          else if i < UInt64.size then
            .error (.misfit (.own (.outOfRange (.integer i) expected) .value span path))
          else wrongType path (.scalar span s) expected
      | .int i =>
          if d.negativeIsOutOfRange ∧ Int64.minValue.toInt ≤ i then
            .error (.misfit (.own (.outOfRange (.integer i) expected) .value span path))
          else wrongType path (.scalar span s) expected
      | _ => wrongType path (.scalar span s) expected
  | other => wrongType path other expected

/-- Read a 16-bit number. -/
def readWord16 (d : Dialect) (path : Path) (n : Node ε) : Reading ε UInt16 :=
  (readNat d UInt16.size .word16 path n).map UInt16.ofNat

/-- Read a 64-bit number. -/
def readWord64 (d : Dialect) (path : Path) (n : Node ε) : Reading ε UInt64 :=
  (readNat d UInt64.size .word64 path n).map UInt64.ofNat

/-- Read a value that may be given as null. -/
def readOptional {α : Type} (read : Path → Node ε → Reading ε α) (path : Path) (n : Node ε) :
    Reading ε (Option α) :=
  match n with
  | .scalar span s =>
      match s.reading with
      | .null => .ok none
      | _ => (read path (.scalar span s)).map some
  | other => (read path other).map some

/-- Read the items of a list from position `i` on. -/
def readItems {α : Type} (read : Path → Node ε → Reading ε α) (path : Path) (rest : Option ε) :
    Nat → List (Node ε) → Reading ε (List α)
  | _, [] =>
      match rest with
      | some e => .error (.broken e)
      | none => .ok []
  | i, item :: items => do
      let a ← read (.index i :: path) item
      let as ← readItems read path rest (i + 1) items
      pure (a :: as)

/-- Read a list. -/
def readList {α : Type} (d : Dialect) (read : Path → Node ε → Reading ε α) (path : Path)
    (n : Node ε) : Reading ε (List α) :=
  match n with
  | .list _ items rest => readItems read path rest 0 items
  | .scalar span s =>
      if d.blankIsEmpty ∧ s.isBlank then .ok []
      else wrongType path (.scalar span s) .sequence
  | other => wrongType path other .sequence

/-- A field of a record under construction `δ`: its name and how its node changes the draft. -/
structure Field (ε δ : Type) where
  name : String
  read : Path → Node ε → δ → Reading ε δ

/-- The shape of a record `α` that is built up as a draft `δ`. `finish` completes a draft or tells
which field is missing and at which position; a strict record refuses fields it does not know, and
one that is written as a list has at least `listed` items. -/
structure Shape (ε δ α : Type) where
  name : String
  strict : Bool
  fields : List (Field ε δ)
  empty : δ
  finish : δ → Except (String × Nat) α
  listed : Nat := 0

/-- Read the entries of a table into a draft. `seen` holds the names read so far. -/
def Shape.readEntries {δ α : Type} (shape : Shape ε δ α) (path : Path) (owner : Span)
    (rest : Option ε) :
    List (Node ε × Node ε) → List String → δ → Reading ε δ
  | [], _, draft =>
      match rest with
      | some e => .error (.broken e)
      | none => .ok draft
  | (key, value) :: entries, seen, draft => do
      let name ← readText .key path key
      match shape.fields.find? fun f => f.name == name with
      | none =>
          if shape.strict then
            let known := shape.fields.map (·.name)
            .error (.misfit ⟨.unknownField name known, .key, key.span, owner, path⟩)
          else
            match value with
            | .broken e => .error (.broken e)
            | _ => shape.readEntries path owner rest entries seen draft
      | some field =>
          if seen.contains name then
            .error (.misfit ⟨.duplicateField name, .key, key.span, owner, path⟩)
          else
            let draft ← field.read (.key name :: path) value draft
            shape.readEntries path owner rest entries (name :: seen) draft

/-- Read listed fields into a draft, returning the items beyond the last field. -/
def readListed {δ : Type} (path : Path) (rest : Option ε) :
    Nat → List (Field ε δ) → List (Node ε) → δ → Reading ε (δ × List (Node ε))
  | _, [], items, draft => .ok (draft, items)
  | _, _ :: _, [], draft =>
      match rest with
      | some e => .error (.broken e)
      | none => .ok (draft, [])
  | i, field :: fields, item :: items, draft => do
      let draft ← field.read (.index i :: path) item draft
      readListed path rest (i + 1) fields items draft

/-- Turn a finished table into its record. -/
def Shape.finishTable {δ α : Type} (shape : Shape ε δ α) (path : Path) (span : Span) (draft : δ) :
    Reading ε α :=
  match shape.finish draft with
  | .ok a => .ok a
  | .error (name, _) => .error (.misfit (.own (.missingField name) .record span path))

/-- Turn a finished list into its record. -/
def Shape.finishList {δ α : Type} (shape : Shape ε δ α) (d : Dialect) (path : Path) (span : Span)
    (items surplus : List (Node ε)) (rest : Option ε) (draft : δ) : Reading ε α :=
  let size := shape.fields.length
  match shape.finish draft with
  | .error (_, position) =>
      .error (.misfit (.own (.wrongLength position shape.name size) .record span path))
  | .ok a =>
      if items.length < shape.listed then
        .error (.misfit (.own (.wrongLength items.length shape.name size) .record span path))
      else if d.recordLists = .exact ∧ (¬ surplus.isEmpty ∨ rest.isSome) then
        let last := (items.drop (size - 1)).head?.map (·.span)
        .error (.misfit (.own .surplusItems .afterItem (last.getD span) path))
      else .ok a

/-- Read a record: a table of its fields in any order or, where the notation allows it, a list of
them in their own order. -/
def Shape.read {δ α : Type} (shape : Shape ε δ α) (d : Dialect) (path : Path) (n : Node ε) :
    Reading ε α :=
  match n with
  | .table span entries rest => do
      let draft ← shape.readEntries path span rest entries [] shape.empty
      shape.finishTable path span draft
  | .list span items rest =>
      if d.recordLists = .refused then wrongType path n (.record shape.name)
      else do
        let (draft, surplus) ← readListed path rest 0 shape.fields items shape.empty
        shape.finishList d path span items surplus rest draft
  | .scalar span s =>
      if d.blankIsEmpty ∧ s.isBlank then shape.finishTable path span shape.empty
      else wrongType path n (.record shape.name)
  | _ => wrongType path n (.record shape.name)

end

end GaleraProxy.Document
