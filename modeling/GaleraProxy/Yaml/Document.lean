import GaleraProxy.Document.Record
import GaleraProxy.Yaml.Event
import GaleraProxy.Yaml.Scalar

/-!
# YAML documents

`Yaml.document` makes a document tree out of the first document of a text: an alias is replaced by
the node it names. `Yaml.readRecord` reads a record from it and words what goes wrong. A text that
is not well formed is described by one word only, but a fault of shape before the break is still
found.
-/

namespace GaleraProxy.Yaml

open Document (Node Scalar Shape Fault Misfit Wording Dialect Step Path)

/-- A node of a YAML document. A break needs no explanation. -/
abbrev YamlNode := Node Unit

/-- A place in the events of a document, and the number of aliases that may still be followed. -/
structure Walk where
  position : Nat
  aliasesLeft : Nat

/-- The position after the events of the node at a position, where `depth` collections are open. -/
def skipNode (events : Array Event) : Nat → Nat → Nat → Option Nat
  | 0, _, _ => none
  | fuel + 1, depth, position =>
      match events[position]? with
      | none => none
      | some event =>
          let continue' (depth : Nat) : Option Nat :=
            if depth = 0 then some (position + 1) else skipNode events fuel depth (position + 1)
          match event.kind with
          | .sequenceStart | .mappingStart => continue' (depth + 1)
          | .sequenceEnd | .mappingEnd => continue' (depth - 1)
          | .alias _ | .scalar .. => continue' depth

mutual

/-- The node at a place, and the place after it unless the document breaks off in it. Collections
below the given depth are passed over. -/
def nodeAt (events : Array Event) : Nat → Nat → Walk → YamlNode × Option Walk
  | 0, _, _ => (.broken (), none)
  | fuel + 1, depth, walk =>
      match events[walk.position]? with
      | none => (.broken (), none)
      | some event =>
          let next : Walk := { walk with position := walk.position + 1 }
          let span : Span := ⟨event.start.index, event.stop.index⟩
          match event.kind with
          | .alias target =>
              if walk.aliasesLeft = 0 then (.broken (), none)
              else
                match nodeAt events fuel depth ⟨target, walk.aliasesLeft - 1⟩ with
                | (node, some after) => (node, some { after with position := next.position })
                | (node, none) => (node, none)
          | .scalar tag text style => (.scalar span (scalarValue tag text style), some next)
          | .sequenceStart =>
              match depth with
              | 0 => passOver events span walk
              | depth + 1 =>
                  let (items, after) := itemsAt events fuel depth next
                  (.list span items (if after.isSome then none else some ()), after)
          | .mappingStart =>
              match depth with
              | 0 => passOver events span walk
              | depth + 1 =>
                  let (entries, after) := entriesAt events fuel depth next
                  (.table span entries (if after.isSome then none else some ()), after)
          | .sequenceEnd | .mappingEnd => (.broken (), none)

/-- Pass over a collection without looking at its parts. -/
def passOver (events : Array Event) (span : Span) (walk : Walk) : YamlNode × Option Walk :=
  match skipNode events (events.size + 1) 0 walk.position with
  | some position => (.skipped span, some { walk with position })
  | none => (.broken (), none)

/-- The items of a sequence. -/
def itemsAt (events : Array Event) : Nat → Nat → Walk → List YamlNode × Option Walk
  | 0, _, _ => ([], none)
  | fuel + 1, depth, walk =>
      match events[walk.position]? with
      | none => ([], none)
      | some ⟨.sequenceEnd, _, _⟩ => ([], some { walk with position := walk.position + 1 })
      | some _ =>
          match nodeAt events fuel depth walk with
          | (item, none) => ([item], none)
          | (item, some walk) =>
              let (items, after) := itemsAt events fuel depth walk
              (item :: items, after)

/-- The entries of a mapping. -/
def entriesAt (events : Array Event) : Nat → Nat → Walk → List (YamlNode × YamlNode) × Option Walk
  | 0, _, _ => ([], none)
  | fuel + 1, depth, walk =>
      match events[walk.position]? with
      | none => ([], none)
      | some ⟨.mappingEnd, _, _⟩ => ([], some { walk with position := walk.position + 1 })
      | some _ =>
          match nodeAt events fuel depth walk with
          | (key, none) => ([(key, .broken ())], none)
          | (key, some walk) =>
              match nodeAt events fuel depth walk with
              | (value, none) => ([(key, value)], none)
              | (value, some walk) =>
                  let (entries, after) := entriesAt events fuel depth walk
                  ((key, value) :: entries, after)

end

/-- Records have at most four levels below the root, so that no reader looks further. -/
def depthLimit : Nat := 6

/-- A document may follow a hundred aliases per event. -/
def aliasLimit (events : Array Event) : Nat := 100 * events.size

/-- The tree of the first document of a text. -/
def tree : FirstDocument → YamlNode
  | .empty m => .scalar ⟨m.index, m.index⟩ (.unquoted "" .null)
  | .events events _ _ =>
      let events := events.toArray
      (nodeAt events (8 * (depthLimit + 1) * (events.size + 2)) depthLimit
        ⟨0, aliasLimit events⟩).1

/-- YAML has no records in lists, and an empty scalar is an empty collection. -/
def dialect : Dialect :=
  { recordLists := .refused, blankIsEmpty := true, negativeIsOutOfRange := false }

/-- How YAML names its null and writes its numbers. -/
def wording : Wording := { null := "unit value", real := Binary64.positional }

/-- The words for a break. -/
def brokenMessage : String := "<syntax>"

/-- The text of a step of a path. -/
def stepText : Step → String
  | .key name => name
  | .index i => "\\[" ++ toString i ++ "\\]"

/-- The path in front of a message; the root has none. -/
def pathText (path : Path) : String :=
  if path.isEmpty then "" else ".".intercalate (path.reverse.map stepText) ++ ": "

/-- The line and column of the character with the given offset, counted from zero. The end of a text
counts as the start of a further line. -/
def lineAndColumn : Nat → Nat → Nat → List Char → Nat × Nat
  | line, column, 0, _ => (line, column)
  | line, _, _ + 1, [] => (line + 1, 0)
  | line, column, 1, '\x0d' :: '\n' :: _ => (line, column + 1)
  | line, _, n + 2, '\x0d' :: '\n' :: rest => lineAndColumn (line + 1) 0 n rest
  | line, column, n + 1, c :: rest =>
      if isBreak c then lineAndColumn (line + 1) 0 n rest
      else lineAndColumn line (column + 1) n rest

/-- Where a fault is; the very start of a text is not mentioned. -/
def placeText (text : List Char) (offset : Nat) : String :=
  let (line, column) := lineAndColumn 0 0 offset text
  if line = 0 ∧ column = 0 then ""
  else " at line " ++ toString (line + 1) ++ " column " ++ toString (column + 1)

/-- Where a misfit is seen: a duplicate at the start of its record, everything else at its own. -/
def misfitOffset (m : Misfit) : Nat :=
  match m.cause with
  | .duplicateField _ => m.owner.start
  | _ => m.span.start

/-- The words for a misfit. -/
def misfitMessage (text : List Char) (m : Misfit) : String :=
  pathText m.path ++ m.cause.message wording ++ placeText text (misfitOffset m)

/-- Read a text that holds one record and nothing else. -/
def readRecord {δ α : Type} (shape : Dialect → Shape Unit δ α) (text : List Char) :
    Except String α :=
  let first := firstDocument text
  match (shape dialect).read dialect [] (tree first) with
  | .error (.broken ()) => .error brokenMessage
  | .error (.misfit m) => .error (misfitMessage text m)
  | .ok record =>
      match first with
      | .empty _ | .events _ true true => .ok record
      | .events .. => .error brokenMessage

end GaleraProxy.Yaml
