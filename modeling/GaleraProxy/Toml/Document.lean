import GaleraProxy.Document.Record
import GaleraProxy.Number.Shortest
import GaleraProxy.Toml.Value

/-!
# TOML documents

A document is a sequence of lines: values, headers of tables and headers of tables in lists.
`Toml.document?` is its tree. `Toml.readRecord` reads a record from it; a fault is shown with the
line of the source in which it is seen.
-/

namespace GaleraProxy.Toml

open Document (Node Scalar Shape Fault Misfit Wording Dialect)

/-- Where the lines of a document are collected: the finished part, and the table of the last header
with its place in it. -/
structure Assembly where
  root : Table
  current : Table
  target : Option (List Key × Key × Bool)

/-- An empty document. -/
def Assembly.start : Assembly :=
  { root := .empty .own none, current := .empty .own (some ⟨0, 0⟩), target := none }

/-- Put the table of the last header in its place. The lines before any header make up the root. -/
def Assembly.finish (a : Assembly) : Option Table :=
  match a.target with
  | none => some a.current
  | some (path, key, listed) => a.root.close path key listed a.current

/-- Open the table of a header. -/
def Assembly.header (a : Assembly) (path : List Key) (key : Key) (listed : Bool) (span : Span) :
    Option Assembly := do
  let root ← a.finish
  if listed then
    let root ← root.allowsListed path key
    pure { root, current := .empty .own (some span), target := some (path, key, true) }
  else
    let (root, current) ← root.openHeader path key span
    pure { root, current, target := some (path, key, false) }

/-- A header in brackets: its key and the input after it. -/
def readHeader? (brackets : Nat) (input : Input) : Option (List Key × Key × Input) := do
  let (path, key, after) ← readKeys? (input.goTo (input.rest.drop brackets))
  let closing := after.rest.take brackets
  if closing == List.replicate brackets ']' then
    pure (path, key, after.goTo (after.rest.drop brackets))
  else none

/-- Read one line that is neither blank nor a comment. -/
def readLine? (a : Assembly) (input : Input) : Option (Assembly × Input) := do
  match input.rest with
  | '[' :: rest =>
      let listed := rest.head? == some '['
      let (path, key, after) ← readHeader? (if listed then 2 else 1) input
      let a ← a.header path key listed ⟨input.offset, after.offset⟩
      pure (a, after)
  | _ =>
      let (path, key, after) ← readKeys? input
      let rest ← expect? '=' after.rest
      let (node, after) ← readValue? (after.goTo rest).skipBlanks
      let current ← a.current.addValue path key node
      pure ({ a with current }, after)

/-- Read the lines of a document. -/
def readLines : Nat → Assembly → Input → Option Table
  | 0, _, _ => none
  | fuel + 1, a, input =>
      let input := input.skipBlanks
      if input.rest.isEmpty then a.finish
      else
        match lineRest? input.rest with
        | some rest => readLines fuel a (input.goTo rest)
        | none => do
            let (a, after) ← readLine? a input
            let rest ← lineRest? after.rest
            readLines fuel a (after.goTo rest)

/-- The tree of a source, if it is well formed. A byte order mark at its front is no part of it. -/
def document? (source : List Char) : Option TomlNode :=
  let start : Input := match source with
    | '\uFEFF' :: rest => ⟨3, rest⟩
    | rest => ⟨0, rest⟩
  (readLines (source.length + 2) .start start).map fun root => root.node ⟨0, 0⟩

/-- TOML has no null, and writes its numbers positionally. -/
def wording : Wording := { null := "null", real := Binary64.positional }

/-- Records may be lists of their fields and of anything after them. -/
def dialect : Dialect :=
  { recordLists := .openEnded, blankIsEmpty := false, negativeIsOutOfRange := true }

/-- The number of the line in which a byte stands, the text of that line, and the number of
characters before the byte in it; `line` and `column` are those at the front. -/
def locate : Nat → Nat → Nat → List Char → List Char → Nat × Nat × List Char
  | line, column, _, before, [] => (line, column, before.reverse)
  | line, column, bytes, before, c :: rest =>
      if bytes = 0 then
        (line, column, before.reverse ++ (c :: rest).takeWhile (· != '\n'))
      else if c == '\n' then locate (line + 1) 0 (bytes - 1) [] rest
      else locate line (column + 1) (bytes - c.utf8Size) (c :: before) rest

/-- A message under the line of the source that it is about, with the stretch marked. At least one
character is marked, and nothing after the line's end. -/
def located (source : List Char) (span : Span) (message : String) : String :=
  let (line, column, text) := locate 0 0 span.start [] source
  let number := toString (line + 1)
  let gutter := String.ofList (List.replicate (number.length + 1) ' ')
  let length := max 1 (min (span.stop - span.start) (byteCount text - column))
  "TOML parse error at line " ++ number ++ ", column " ++ toString (column + 1) ++ "\n"
    ++ gutter ++ "|\n"
    ++ number ++ " | " ++ String.ofList text ++ "\n"
    ++ gutter ++ "|" ++ String.ofList (List.replicate (column + 1) ' ')
    ++ String.ofList (List.replicate length '^') ++ "\n"
    ++ message ++ "\n"

/-- The words for a source that is not well formed. -/
def malformedMessage : String := "<syntax>"

/-- Read a source that holds one record. -/
def readRecord {δ α : Type} (shape : Dialect → Shape Unit δ α) (source : List Char) :
    Except String α :=
  match document? source with
  | none => .error malformedMessage
  | some root =>
      match (shape dialect).read dialect [] root with
      | .ok record => .ok record
      | .error (.broken ()) => .error malformedMessage
      | .error (.misfit m) => .error (located source m.span (m.cause.message wording))

end GaleraProxy.Toml
