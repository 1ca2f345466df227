import GaleraProxy.Toml.Number
import GaleraProxy.Toml.Table
import GaleraProxy.Toml.Text

/-!
# TOML values

A value is a text, a number, a truth value, a date, a list in brackets or a table in braces. Offsets
count the bytes of the source.
-/

namespace GaleraProxy.Toml

open Document (Node Scalar)

/-- What is left to read, and how many bytes came before it. -/
structure Input where
  offset : Nat
  rest : List Char

/-- The number of bytes of a text. -/
def byteCount (text : List Char) : Nat := (text.map Char.utf8Size).foldl Nat.add 0

/-- The input from which `rest` is left. -/
def Input.goTo (input : Input) (rest : List Char) : Input :=
  ⟨input.offset + byteCount (input.rest.take (input.rest.length - rest.length)), rest⟩

/-- Pass over blanks. -/
def Input.skipBlanks (input : Input) : Input := input.goTo (Toml.skipBlanks input.rest)

/-- Pass over blanks, line ends and comments. -/
def Input.skipTrivia (input : Input) : Input := input.goTo (Toml.skipTrivia false input.rest)

/-- The name by which a date is known where it is refused. -/
def dateMark : String := "$__toml_private_datetime"

/-- A date is a table with a single entry that nothing expects. -/
def dateNode (span : Span) : TomlNode :=
  .table span [(.scalar span (.text dateMark), .skipped span)] none

/-- Lists and tables may be nested this deep. -/
def depthLimit : Nat := 80

/-- The parts of a key with dots, and the input after the blanks that follow it. -/
def keyParts : Nat → Input → Option (List Key × Input)
  | 0, _ => none
  | fuel + 1, input => do
      let input := input.skipBlanks
      let (name, rest) ← readKey? input.rest
      let after := input.goTo rest
      let key : Key := ⟨name, input.offset, after.offset⟩
      let after := after.skipBlanks
      match after.rest with
      | '.' :: rest =>
          let (keys, after) ← keyParts fuel (after.goTo rest)
          pure (key :: keys, after)
      | _ => pure ([key], after)

/-- A key with dots: the path and the last part. -/
def readKeys? (input : Input) : Option (List Key × Key × Input) := do
  let (keys, after) ← keyParts (input.rest.length + 1) input
  let last ← keys.getLast?
  if depthLimit ≤ keys.length then none else pure (keys.dropLast, last, after)

/-- A scalar or a date. -/
def readScalar? (input : Input) : Option (TomlNode × Input) :=
  let node (s : Scalar) (rest : List Char) : Option (TomlNode × Input) :=
    let after := input.goTo rest
    some (.scalar ⟨input.offset, after.offset⟩ s, after)
  match input.rest with
  | 't' :: 'r' :: 'u' :: 'e' :: rest => node (.bool true) rest
  | 'f' :: 'a' :: 'l' :: 's' :: 'e' :: rest => node (.bool false) rest
  | c :: _ =>
      if c == '"' || c == '\'' then (readText? input.rest).bind fun (s, rest) => node (.text s) rest
      else
        match numeral? input.rest with
        | some (some s, rest) => node s rest
        | some (none, rest) =>
            let after := input.goTo rest
            some (dateNode ⟨input.offset, after.offset⟩, after)
        | none => none
  | [] => none

mutual

/-- A value inside `depth` lists and tables. -/
def readValue : Nat → Nat → Input → Option (TomlNode × Input)
  | 0, _, _ => none
  | fuel + 1, depth, input =>
      match input.rest with
      | '[' :: rest =>
          if depthLimit ≤ depth + 1 then none
          else do
            let (items, after) ← readItems fuel (depth + 1) (input.goTo rest)
            pure (.list ⟨input.offset, after.offset⟩ items none, after)
      | '\x7b' :: rest =>
          if depthLimit ≤ depth + 1 then none
          else do
            let start := (input.goTo rest).skipBlanks
            let (table, after) ← match start.rest with
              | '\x7d' :: rest => some (Table.empty .own none, start.goTo rest)
              | _ => readEntries fuel (depth + 1) (Table.empty .own none) start
            pure (table.node ⟨input.offset, after.offset⟩, after)
      | _ => readScalar? input

/-- The rest of a list. A comma may follow its last item. -/
def readItems : Nat → Nat → Input → Option (List TomlNode × Input)
  | 0, _, _ => none
  | fuel + 1, depth, input =>
      let input := input.skipTrivia
      match input.rest with
      | ']' :: rest => some ([], input.goTo rest)
      | _ => do
          let (item, after) ← readValue fuel depth input
          let after := after.skipTrivia
          match after.rest with
          | ',' :: rest => do
              let (items, after) ← readItems fuel depth (after.goTo rest)
              pure (item :: items, after)
          | ']' :: rest => pure ([item], after.goTo rest)
          | _ => none

/-- The rest of a table in braces, which is not empty and stands on one line. -/
def readEntries : Nat → Nat → Table → Input → Option (Table × Input)
  | 0, _, _, _ => none
  | fuel + 1, depth, table, input => do
      let (path, key, after) ← readKeys? input
      let rest ← expect? '=' after.rest
      let (node, after) ← readValue fuel depth (after.goTo rest).skipBlanks
      let table ← table.addValue path key node
      let after := after.skipBlanks
      match after.rest with
      | ',' :: rest => readEntries fuel depth table (after.goTo rest)
      | '\x7d' :: rest => pure (table, after.goTo rest)
      | _ => none

end

/-- The value that begins here. -/
def readValue? (input : Input) : Option (TomlNode × Input) :=
  readValue (2 * input.rest.length + 2) 0 input

end GaleraProxy.Toml
