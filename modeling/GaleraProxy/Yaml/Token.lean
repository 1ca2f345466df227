import GaleraProxy.Text.Utf8
import GaleraProxy.Yaml.Text

/-!
# Tokens of a YAML text

A text falls into indicators, scalars, and the starts and ends of blocks that follow from
indentation. Whether a scalar is a key shows only when its colon is reached, so tokens wait in a
queue until no earlier key can turn up. `Scanner.next?` takes one more token into the queue, and
`Scanner.peek?` makes sure that the first token of the queue is decided.
-/

namespace GaleraProxy.Yaml

/-- How a scalar was written. -/
inductive Style where
  | plain
  | singleQuoted
  | doubleQuoted
  | literal
  | folded
  deriving DecidableEq, Repr

/-- The kinds of tokens. -/
inductive TokenKind where
  | streamEnd
  | versionDirective (major minor : Nat)
  | tagDirective (handle expansion : String)
  | documentStart
  | documentEnd
  | blockSequenceStart
  | blockMappingStart
  | blockEnd
  | flowSequenceStart
  | flowSequenceEnd
  | flowMappingStart
  | flowMappingEnd
  | blockEntry
  | flowEntry
  | key
  | value
  | alias (name : String)
  | anchor (name : String)
  | tag (handle ending : String)
  | scalar (text : String) (style : Style)
  deriving DecidableEq, Repr

/-- A token and the stretch of the text it comes from. -/
structure Token where
  kind : TokenKind
  start : Mark
  stop : Mark
  deriving Repr

/-- A token that may turn out to be a key: whether it has to, its number and where it starts. -/
structure KeyCandidate where
  required : Bool
  number : Nat
  start : Mark

/-- The state of reading tokens. `indent` is the column of the innermost block, `indents` are those
of the blocks around it, and `candidates` holds one possible key per level of brackets. -/
structure Scanner where
  cursor : Cursor
  queue : List Token
  taken : Nat
  indent : Option Nat
  indents : List (Option Nat)
  keyAllowed : Bool
  candidates : List (Option KeyCandidate)
  finished : Bool

namespace Scanner

/-- The start of a text. -/
def start (text : List Char) : Scanner :=
  { cursor := .start text, queue := [], taken := 0, indent := none, indents := [],
    keyAllowed := true, candidates := [none], finished := false }

/-- How many brackets are open. -/
def flowLevel (s : Scanner) : Nat := s.candidates.length - 1

/-- Whether any bracket is open. -/
def inFlow (s : Scanner) : Bool := 0 < s.flowLevel

/-- Put a token at the end of the queue. -/
def push (s : Scanner) (t : Token) : Scanner := { s with queue := s.queue ++ [t] }

/-- Put a token with a given number into the queue. -/
def insert (s : Scanner) (number : Nat) (t : Token) : Scanner :=
  let i := number - s.taken
  { s with queue := s.queue.take i ++ t :: s.queue.drop i }

/-- Whether a candidate is too far back to be a key: on an earlier line or 1024 characters away. -/
def isStale (here : Mark) (k : KeyCandidate) : Bool :=
  k.start.line < here.line || k.start.index + 1024 < here.index

/-- Give up the candidates that are too far back; a required one must not be. -/
def dropStale (s : Scanner) : Option Scanner :=
  let stale (k? : Option KeyCandidate) : Bool := k?.any (isStale s.cursor.mark)
  if s.candidates.any fun k? => stale k? && k?.any (·.required) then none
  else some { s with candidates := s.candidates.map fun k? => if stale k? then none else k? }

/-- Give up the innermost candidate; a required one must not be. -/
def dropCandidate (s : Scanner) : Option Scanner :=
  match s.candidates with
  | [] => some s
  | k? :: rest =>
      if k?.any (·.required) then none else some { s with candidates := none :: rest }

/-- Note that the next token may be a key. -/
def saveCandidate (s : Scanner) : Option Scanner :=
  if s.keyAllowed then do
    let s ← s.dropCandidate
    let k : KeyCandidate :=
      { required := !s.inFlow && s.indent == some s.cursor.mark.column
        number := s.taken + s.queue.length, start := s.cursor.mark }
    pure { s with candidates := some k :: s.candidates.drop 1 }
  else some s

/-- Open a block at a column that lies deeper than the innermost one. -/
def openBlock (s : Scanner) (column : Nat) (number : Option Nat) (kind : TokenKind) (at' : Mark) :
    Scanner :=
  if s.inFlow then s
  else if s.indent.all (· < column) then
    let t : Token := ⟨kind, at', at'⟩
    let s := { s with indent := some column, indents := s.indent :: s.indents }
    match number with
    | some n => s.insert n t
    | none => s.push t
  else s

/-- Close the blocks that are deeper than a column, or all of them. -/
def closeBlocks (column : Option Nat) : Nat → Scanner → Scanner
  | 0, s => s
  | fuel + 1, s =>
      if s.inFlow then s
      else
        match s.indent, s.indents with
        | some n, outer :: indents =>
            if column.all (· < n) then
              let t : Token := ⟨.blockEnd, s.cursor.mark, s.cursor.mark⟩
              closeBlocks column fuel ({ s with indent := outer, indents }.push t)
            else s
        | _, _ => s

/-- Close the blocks that are deeper than a column, or all of them. -/
def unroll (s : Scanner) (column : Option Nat) : Scanner :=
  closeBlocks column (s.indents.length + 1) s

/-- Pass over blank space, comments, line ends and a byte order mark that begins a line. A tab does
not count as blank where a key may begin outside brackets. -/
def skipToToken : Nat → Scanner → Scanner
  | 0, s => s
  | fuel + 1, s =>
      let c := s.cursor
      let c := if c.mark.column = 0 ∧ c.at? '\uFEFF' then c.skip else c
      let tabs := s.inFlow || !s.keyAllowed
      let c := (c.skipWhile fun x => x == ' ' || (tabs && x == '\t')).skipComment
      if c.atBreak then
        let keyAllowed := s.keyAllowed || !s.inFlow
        skipToToken fuel { s with cursor := c.skipBreak, keyAllowed }
      else { s with cursor := c }

/-- Take in an indicator of `n` characters. -/
def indicator (s : Scanner) (n : Nat) (kind : TokenKind) : Scanner :=
  let after := s.cursor.skipN n
  { s with cursor := after }.push ⟨kind, s.cursor.mark, after.mark⟩

/-- The end of the text, which counts as the start of a further line. -/
def fetchEnd (s : Scanner) : Option Scanner := do
  let m := s.cursor.mark
  let m := if m.column = 0 then m else ⟨m.index, m.line + 1, 0⟩
  let s ← ({ s with cursor := ⟨[], m⟩ }.unroll none).dropCandidate
  pure ({ s with keyAllowed := false, finished := true }.push ⟨.streamEnd, m, m⟩)

/-- A marker of a document's start or end. -/
def fetchDocumentMarker (s : Scanner) (kind : TokenKind) : Option Scanner := do
  let s ← (s.unroll none).dropCandidate
  pure ({ s with keyAllowed := false }.indicator 3 kind)

/-- An opening bracket. -/
def fetchOpening (s : Scanner) (kind : TokenKind) : Option Scanner := do
  let s ← s.saveCandidate
  pure ({ s with candidates := none :: s.candidates, keyAllowed := true }.indicator 1 kind)

/-- A closing bracket. -/
def fetchClosing (s : Scanner) (kind : TokenKind) : Option Scanner := do
  let s ← s.dropCandidate
  let candidates := if s.inFlow then s.candidates.drop 1 else s.candidates
  pure ({ s with candidates, keyAllowed := false }.indicator 1 kind)

/-- A comma. -/
def fetchFlowEntry (s : Scanner) : Option Scanner := do
  let s ← s.dropCandidate
  pure ({ s with keyAllowed := true }.indicator 1 .flowEntry)

/-- The hyphen of a block sequence. -/
def fetchBlockEntry (s : Scanner) : Option Scanner := do
  let m := s.cursor.mark
  if !s.inFlow && !s.keyAllowed then none
  else
    let s ← (s.openBlock m.column none .blockSequenceStart m).dropCandidate
    pure ({ s with keyAllowed := true }.indicator 1 .blockEntry)

/-- The question mark of a key. -/
def fetchKey (s : Scanner) : Option Scanner := do
  let m := s.cursor.mark
  if !s.inFlow && !s.keyAllowed then none
  else
    let s ← (s.openBlock m.column none .blockMappingStart m).dropCandidate
    pure ({ s with keyAllowed := !s.inFlow }.indicator 1 .key)

/-- The colon of a value. If a candidate stands before it, that is the key. -/
def fetchValue (s : Scanner) : Option Scanner :=
  let m := s.cursor.mark
  match s.candidates with
  | some k :: outer =>
      let s := s.insert k.number ⟨.key, k.start, k.start⟩
      let s := s.openBlock k.start.column (some k.number) .blockMappingStart k.start
      some ({ s with candidates := none :: outer, keyAllowed := false }.indicator 1 .value)
  | _ =>
      if !s.inFlow && !s.keyAllowed then none
      else
        let s := s.openBlock m.column none .blockMappingStart m
        some ({ s with keyAllowed := !s.inFlow }.indicator 1 .value)

/-- The name of an anchor or alias, which must end where a node can go on. -/
def fetchAnchor (s : Scanner) (kind : String → TokenKind) : Option Scanner := do
  let s ← s.saveCandidate
  let (name, after) := s.cursor.skip.span isNameChar
  let ends := after.blankAhead 0 || after.peek?.any fun x => "?:,]\x7d%@`".toList.contains x
  if name.isEmpty || !ends then none
  else
    let t : Token := ⟨kind (String.ofList name), s.cursor.mark, after.mark⟩
    pure ({ s with cursor := after, keyAllowed := false }.push t)

/-- Whether a character may stand in a tag. -/
def isTagChar (brackets : Bool) (x : Char) : Bool :=
  isNameChar x || ";/?:@&=+$.%!~*'()".toList.contains x || (brackets && ",[]".toList.contains x)

/-- Decode the percent escapes of a tag, which must spell characters. -/
def decodeTag? (text : List Char) : Option String :=
  let rec bytes : List Char → Option (List UInt8)
    | [] => some []
    | '%' :: a :: b :: rest => do
        let high ← hexValue? [a]
        let low ← hexValue? [b]
        pure (UInt8.ofNat (high * 16 + low) :: (← bytes rest))
    | '%' :: _ => none
    | x :: rest => do pure (Utf8.encode (String.singleton x) ++ (← bytes rest))
  (bytes text).bind Utf8.decode?

/-- Read the characters of a tag; there must be at least one, counting those of `head` after its
exclamation mark. -/
def readTagText (brackets : Bool) (head : List Char) (c : Cursor) : Option (String × Cursor) := do
  let (text, after) := c.span (isTagChar brackets)
  if text.isEmpty && head.isEmpty then none
  else pure (← decodeTag? (head.drop 1 ++ text), after)

/-- Read a tag handle: an exclamation mark, a name, and a second exclamation mark if there is one.
-/
def readHandle (c : Cursor) : Option (List Char × Cursor) :=
  if c.at? '!' then
    let (name, after) := c.skip.span isNameChar
    if after.at? '!' then some ('!' :: name ++ ['!'], after.skip) else some ('!' :: name, after)
  else none

/-- Read a tag. -/
def readTag (c : Cursor) : Option (String × String × Cursor) :=
  if c.ahead? 1 = some '<' then do
    let (text, after) ← readTagText true [] (c.skipN 2)
    if after.at? '>' then pure ("", text, after.skip) else none
  else do
    let (handle, after) ← readHandle c
    if 1 < handle.length ∧ handle.getLast? = some '!' then
      let (text, after) ← readTagText false [] after
      pure (String.ofList handle, text, after)
    else
      let (text, after) ← readTagText false handle after
      if text.isEmpty then pure ("", "!", after) else pure ("!", text, after)

/-- A tag. -/
def fetchTag (s : Scanner) : Option Scanner := do
  let s ← s.saveCandidate
  let (handle, ending, after) ← readTag s.cursor
  if after.blankAhead 0 || (s.inFlow && after.at? ',') then
    let t : Token := ⟨.tag handle ending, s.cursor.mark, after.mark⟩
    pure ({ s with cursor := after, keyAllowed := false }.push t)
  else none

/-- A block scalar. -/
def fetchBlockScalar (s : Scanner) (literal : Bool) : Option Scanner := do
  let s ← s.dropCandidate
  let (text, after) ← blockScalar literal s.indent s.cursor
  let style := if literal then .literal else .folded
  let t : Token := ⟨.scalar (String.ofList text) style, s.cursor.mark, after.mark⟩
  pure ({ s with cursor := after, keyAllowed := true }.push t)

/-- A quoted scalar. -/
def fetchQuoted (s : Scanner) (quote : Char) : Option Scanner := do
  let s ← s.saveCandidate
  let (text, after) ← quotedScalar quote s.cursor
  let style := if quote = '"' then .doubleQuoted else .singleQuoted
  let t : Token := ⟨.scalar (String.ofList text) style, s.cursor.mark, after.mark⟩
  pure ({ s with cursor := after, keyAllowed := false }.push t)

/-- A plain scalar. One that ends with a line allows a key after it. -/
def fetchPlain (s : Scanner) : Option Scanner := do
  let s ← s.saveCandidate
  let indent := (s.indent.map (· + 1)).getD 0
  let (text, stop, after, broken) ← plainScalar s.inFlow indent s.cursor
  let t : Token := ⟨.scalar (String.ofList text) .plain, s.cursor.mark, stop.mark⟩
  pure ({ s with cursor := after, keyAllowed := broken }.push t)

/-- Read the number of a version. -/
def readVersionNumber (c : Cursor) : Option (Nat × Cursor) :=
  let (digits, after) := c.span Char.isDigit
  if digits.isEmpty || 9 < digits.length then none
  else some (digits.foldl (fun n d => n * 10 + (d.toNat - 0x30)) 0, after)

/-- Read the value of a directive. -/
def readDirective (c : Cursor) : Option (TokenKind × Cursor) := do
  let (name, after) := c.skip.span isNameChar
  if name.isEmpty || !after.blankAhead 0 then none
  else if name = "YAML".toList then
    let (major, after) ← readVersionNumber after.skipBlanks
    if after.at? '.' then
      let (minor, after) ← readVersionNumber after.skip
      pure (.versionDirective major minor, after)
    else none
  else if name = "TAG".toList then
    let (handle, after) ← readHandle after.skipBlanks
    if handle.getLast? ≠ some '!' || !after.atBlank then none
    else
      let (text, after) ← readTagText true [] after.skipBlanks
      if after.blankAhead 0 then pure (.tagDirective (String.ofList handle) text, after) else none
  else none

/-- A directive, which takes up a line of its own. -/
def fetchDirective (s : Scanner) : Option Scanner := do
  let s ← (s.unroll none).dropCandidate
  let (kind, after) ← readDirective s.cursor
  let t : Token := ⟨kind, s.cursor.mark, after.mark⟩
  let after := after.skipBlanks.skipComment
  if after.atLineEnd then
    pure ({ s with cursor := after.skipBreak, keyAllowed := false }.push t)
  else none

/-- Whether a plain scalar may begin at a cursor. -/
def plainMayBegin (s : Scanner) : Bool :=
  let c := s.cursor
  match c.peek? with
  | none => false
  | some x =>
      let special := "-?:,[]\x7b\x7d#&*!|>'\"%@`".toList.contains x
      !(isBlank x || isBreak x || special)
        || (x == '-' && !(c.ahead? 1).any isBlank)
        || (!s.inFlow && (x == '?' || x == ':') && !c.blankAhead 1)

/-- Take one more token into the queue, or find the text not well formed. -/
def fetch (s : Scanner) : Option Scanner := do
  let s ← (skipToToken (s.cursor.rest.length + 1) s).dropStale
  let s := s.unroll (some s.cursor.mark.column)
  let c := s.cursor
  match c.peek? with
  | none => s.fetchEnd
  | some x =>
      if c.mark.column = 0 ∧ x = '%' then s.fetchDirective
      else if c.atDocumentMarker then
        s.fetchDocumentMarker (if x = '-' then .documentStart else .documentEnd)
      else if x = '[' then s.fetchOpening .flowSequenceStart
      else if x = '\x7b' then s.fetchOpening .flowMappingStart
      else if x = ']' then s.fetchClosing .flowSequenceEnd
      else if x = '\x7d' then s.fetchClosing .flowMappingEnd
      else if x = ',' then s.fetchFlowEntry
      else if x = '-' ∧ c.blankAhead 1 then s.fetchBlockEntry
      else if x = '?' ∧ (s.inFlow || c.blankAhead 1) then s.fetchKey
      else if x = ':' ∧ (s.inFlow || c.blankAhead 1) then s.fetchValue
      else if x = '*' then s.fetchAnchor .alias
      else if x = '&' then s.fetchAnchor .anchor
      else if x = '!' then s.fetchTag
      else if x = '|' ∧ ¬ s.inFlow then s.fetchBlockScalar true
      else if x = '>' ∧ ¬ s.inFlow then s.fetchBlockScalar false
      else if x = '\'' ∨ x = '"' then s.fetchQuoted x
      else if s.plainMayBegin then s.fetchPlain
      else none

/-- Whether the first token of the queue may still get a key before it. -/
def undecided (s : Scanner) : Bool :=
  s.queue.isEmpty || s.candidates.any fun k? => k?.any fun k => k.number == s.taken

/-- Take in tokens until the first one is decided. -/
def settle : Nat → Scanner → Option Scanner
  | 0, s => some s
  | fuel + 1, s => do
      let s ← if s.queue.isEmpty then pure s else s.dropStale
      if s.undecided && !s.finished then
        let s ← s.fetch
        settle fuel s
      else pure s

/-- The next token, and the state in which it is the first of the queue. -/
def peek? (s : Scanner) : Option (Token × Scanner) := do
  let s ← settle (s.cursor.rest.length + 2) s
  let t ← s.queue.head?
  pure (t, s)

/-- The state after the first token of the queue. -/
def drop (s : Scanner) : Scanner := { s with queue := s.queue.drop 1, taken := s.taken + 1 }

end Scanner

end GaleraProxy.Yaml
