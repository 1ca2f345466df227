import GaleraProxy.Document.Record
import GaleraProxy.Json.Number
import GaleraProxy.Json.Text

/-!
# JSON documents

`Json.document` reads a JSON text into a document tree that holds everything before the first error.
`Json.faultMessage` words the fault that a record's reader found in such a tree, and
`Json.readRecord` puts the two together: the text must hold one document and nothing after it.
-/

namespace GaleraProxy.Json

open Document (Node Plan Scalar Shape Fault Misfit Wording Dialect)

/-- A node of a JSON document. -/
abbrev JsonNode := Node Error

/-- The closing bracket or brace that a container waits for. -/
inductive Container where
  | list
  | object
  deriving DecidableEq, Repr

/-- The byte that closes a container. -/
def Container.closing : Container → UInt8
  | .list => 0x5D
  | .object => 0x7D

/-- The error where a container is not closed. -/
def Container.eof : Container → ErrorKind
  | .list => .eofInList
  | .object => .eofInObject

/-- The error where neither a comma nor the end follows an item. -/
def Container.expectedEnd : Container → ErrorKind
  | .list => .expectedListEnd
  | .object => .expectedObjectEnd

/-- Pass over a key and its colon; the input stands at the key. -/
def skipKey (input : Input) : Except Error Input :=
  match input.skipBlank.rest with
  | 0x22 :: _ => do
      let after := (← skipText (input.skipBlank.advance 1)).skipBlank
      match after.rest with
      | 0x3A :: _ => pure (after.advance 1)
      | [] => after.failNext .eofInObject
      | _ => after.failNext .expectedColon
  | [] => input.skipBlank.failNext .eofInObject
  | _ => input.skipBlank.failNext .keyNotString

/-- Close the containers that end here. The result is the input after them with the containers still
open; a comma is taken in if one may stand here. -/
def skipClosings : Nat → Bool → List Container → Input → Except Error (List Container × Input)
  | 0, _, stack, input => .ok (stack, input)
  | _, _, [], input => .ok ([], input)
  | fuel + 1, afterItem, top :: stack, input =>
      let input := input.skipBlank
      match input.rest with
      | [] => input.failNext top.eof
      | b :: _ =>
          if b = 0x2C ∧ afterItem then .ok (top :: stack, input.advance 1)
          else if b = top.closing then skipClosings fuel true stack (input.advance 1)
          else if afterItem then input.failNext top.expectedEnd
          else .ok (top :: stack, input)

/-- Pass over one value inside the open containers, and over all that follows it up to the end of
the outermost of them. -/
def skipValues : Nat → List Container → Input → Except Error Input
  | 0, _, input => .ok input
  | fuel + 1, stack, input =>
      let input := input.skipBlank
      let step : Except Error (Bool × List Container × Input) :=
        match input.rest with
        | [] => input.failNext .eofInValue
        | b :: _ =>
            let next := input.advance 1
            if b = 0x6E then (next.expect [0x75, 0x6C, 0x6C]).map (true, stack, ·)
            else if b = 0x74 then (next.expect [0x72, 0x75, 0x65]).map (true, stack, ·)
            else if b = 0x66 then (next.expect [0x61, 0x6C, 0x73, 0x65]).map (true, stack, ·)
            else if b = 0x2D then (skipNumber next).map (true, stack, ·)
            else if isDigit b then (skipNumber input).map (true, stack, ·)
            else if b = 0x22 then (skipText next).map (true, stack, ·)
            else if b = 0x5B then .ok (false, .list :: stack, next)
            else if b = 0x7B then .ok (false, .object :: stack, next)
            else input.failNext .expectedValue
      match step with
      | .error e => .error e
      | .ok (afterItem, stack, input) =>
          match skipClosings (input.rest.length + 1) afterItem stack input with
          | .error e => .error e
          | .ok ([], input) => .ok input
          | .ok (.list :: stack, input) => skipValues fuel (.list :: stack) input
          | .ok (.object :: stack, input) =>
              match skipKey input with
              | .error e => .error e
              | .ok input => skipValues fuel (.object :: stack) input

/-- Pass over one value. -/
def skipValue (input : Input) : Except Error Input :=
  skipValues (input.rest.length + 1) [] input

/-- A scalar's node and the input after it. -/
def scalarNode (start : Nat) (result : Except Error (Scalar × Input)) : JsonNode × Option Input :=
  match result with
  | .ok (s, input) => (.scalar ⟨start, input.offset⟩ s, some input)
  | .error e => (.broken e, none)

/-- Whether another item of a container follows, and the input at it. The first item needs no comma
before it. -/
def nextItem? (container : Container) (first : Bool) (input : Input) :
    Except Error (Option Input) :=
  let input := input.skipBlank
  let start (input : Input) : Except Error (Option Input) :=
    match container, input.rest with
    | .list, _ | .object, 0x22 :: _ => .ok (some input)
    | .object, _ => input.failNext .keyNotString
  match input.rest with
  | [] => input.failNext container.eof
  | b :: _ =>
      if b = container.closing then .ok none
      else if first then start input
      else if b = 0x2C then
        let input := (input.advance 1).skipBlank
        match input.rest with
        | [] => input.failNext .eofInValue
        | c :: _ => if c = container.closing then input.failNext .trailingComma else start input
      else input.failNext container.expectedEnd

/-- Read a key; the input stands at its opening quote. -/
def keyNode (input : Input) : Except Error (String × JsonNode × Input) := do
  let (name, after) ← textBody (input.advance 1)
  pure (name, .scalar ⟨input.offset, after.offset⟩ (.text name), after)

/-- Read the colon after a key. -/
def colon (input : Input) : Except Error Input :=
  let input := input.skipBlank
  match input.rest with
  | 0x3A :: _ => .ok (input.advance 1)
  | [] => input.failNext .eofInObject
  | _ => input.failNext .expectedColon

mutual

/-- Read a value as far as the plan asks for it. The result has no input where the reading broke
off. -/
def valueNode : Nat → Plan → Input → JsonNode × Option Input
  | 0, _, input => (.broken ⟨.eofInValue, input.offset⟩, none)
  | fuel + 1, plan, input =>
      let input := input.skipBlank
      let start := input.offset
      let next := input.advance 1
      match input.rest with
      | [] => (.broken ⟨.eofInValue, start⟩, none)
      | b :: _ =>
          if b = 0x6E then scalarNode start ((next.expect [0x75, 0x6C, 0x6C]).map (Scalar.null, ·))
          else if b = 0x74 then
            scalarNode start ((next.expect [0x72, 0x75, 0x65]).map (.bool true, ·))
          else if b = 0x66 then
            scalarNode start ((next.expect [0x61, 0x6C, 0x73, 0x65]).map (.bool false, ·))
          else if b = 0x2D then scalarNode start (number true next)
          else if isDigit b then scalarNode start (number false input)
          else if b = 0x22 then
            scalarNode start ((textBody next).map fun (s, after) => (.text s, after))
          else if b = 0x5B then
            let (items, rest) := itemNodes fuel true next
            match rest with
            | .ok after => (.list ⟨start, after.offset⟩ items none, some after)
            | .error e => (.list ⟨start, start⟩ items (some e), none)
          else if b = 0x7B then
            let (entries, rest) := entryNodes fuel plan true next
            match rest with
            | .ok after => (.table ⟨start, after.offset⟩ entries none, some after)
            | .error e => (.table ⟨start, start⟩ entries (some e), none)
          else (.broken ⟨.expectedValue, start + 1⟩, none)

/-- Read the items of a list, with the input after its closing bracket. -/
def itemNodes : Nat → Bool → Input → List JsonNode × Except Error Input
  | 0, _, input => ([], .error ⟨.eofInList, input.offset⟩)
  | fuel + 1, first, input =>
      match nextItem? .list first input with
      | .error e => ([], .error e)
      | .ok none => ([], .ok (input.skipBlank.advance 1))
      | .ok (some input) =>
          match valueNode fuel .whole input with
          | (.broken e, _) => ([], .error e)
          | (item, none) => ([item], .error ⟨.eofInList, input.offset⟩)
          | (item, some input) =>
              let (items, rest) := itemNodes fuel false input
              (item :: items, rest)

/-- Read the entries of an object, with the input after its closing brace. -/
def entryNodes : Nat → Plan → Bool → Input → List (JsonNode × JsonNode) × Except Error Input
  | 0, _, _, input => ([], .error ⟨.eofInObject, input.offset⟩)
  | fuel + 1, plan, first, input =>
      match nextItem? .object first input with
      | .error e => ([], .error e)
      | .ok none => ([], .ok (input.skipBlank.advance 1))
      | .ok (some input) =>
          match keyNode input with
          | .error e => ([], .error e)
          | .ok (name, key, input) =>
              let (value, rest) : JsonNode × Option Input :=
                match colon input with
                | .error e => (.broken e, none)
                | .ok input =>
                    match plan.entry? name with
                    | some plan => valueNode fuel plan input
                    | none =>
                        match skipValue input with
                        | .error e => (.broken e, none)
                        | .ok after => (.skipped ⟨input.offset, after.offset⟩, some after)
              match rest with
              | none => ([(key, value)], .error ⟨.eofInObject, input.offset⟩)
              | some input =>
                  let (entries, rest) := entryNodes fuel plan false input
                  ((key, value) :: entries, rest)

end

/-- The document at the front of a source, and what follows it. -/
def document (plan : Plan) (source : List UInt8) : JsonNode × Option Input :=
  valueNode (2 * source.length + 2) plan ⟨0, source⟩

/-- JSON calls its null by name and writes large numbers with an exponent. -/
def wording : Wording := { null := "null", real := Binary64.compact }

/-- Records may be lists of exactly their fields. -/
def dialect : Dialect :=
  { recordLists := .exact, blankIsEmpty := false, negativeIsOutOfRange := true }

/-- The point after a faulty key: blank space is passed over, and so is a closing brace. -/
def afterKey (source : List UInt8) (offset : Nat) : Nat :=
  let input := (Input.advance ⟨0, source⟩ offset).skipBlank
  match input.rest with
  | 0x7D :: _ => input.offset + 1
  | _ => input.offset

/-- What is wrong after the last field of a listed record. -/
def surplusError (source : List UInt8) (offset : Nat) : Error :=
  let input := (Input.advance ⟨0, source⟩ offset).skipBlank
  match input.rest with
  | [] => ⟨.eofInList, input.offset⟩
  | 0x2C :: _ =>
      let input := (input.advance 1).skipBlank
      match input.rest with
      | [] => ⟨.trailingCharacters, input.offset⟩
      | 0x5D :: _ => ⟨.trailingComma, input.offset + 1⟩
      | _ => ⟨.trailingCharacters, input.offset + 1⟩
  | _ => ⟨.trailingCharacters, input.offset + 1⟩

/-- The words for a misfit in a source. -/
def misfitMessage (source : List UInt8) (m : Misfit) : String :=
  match m.cause, m.place with
  | .surplusItems, _ => (surplusError source m.span.stop).message source
  | cause, .opening => located source m.span.start (cause.message wording)
  | cause, .key => located source (afterKey source m.span.stop) (cause.message wording)
  | cause, _ => located source m.span.stop (cause.message wording)

/-- The words for a fault in a source. -/
def faultMessage (source : List UInt8) : Fault Error → String
  | .broken e => e.message source
  | .misfit m => misfitMessage source m

/-- Read a source that holds one record and nothing else. -/
def readRecord {δ α : Type} (shape : Dialect → Shape Error δ α) (plan : Plan)
    (source : List UInt8) : Except String α :=
  let (node, after) := document plan source
  match (shape dialect).read dialect [] node with
  | .error fault => .error (faultMessage source fault)
  | .ok record =>
      match after with
      | none => .ok record
      | some input =>
          match input.skipBlank.rest with
          | [] => .ok record
          | _ => .error (located source (input.skipBlank.offset + 1) "trailing characters")

end GaleraProxy.Json
