import GaleraProxy.Yaml.Cursor

/-!
# Scalars of a YAML text

The three ways to write a scalar: plain, between quotes, and as an indented block. Line ends inside
a scalar fold: a single one becomes a space, and of several the first is dropped. Each function
starts at the first character of a scalar and returns its text and the cursor after it, or `none`
where the text is not well formed.
-/

namespace GaleraProxy.Yaml

/-- The blank space between two parts of a folded scalar: blanks within a line, or the first line
end and those after it. -/
structure Gap where
  blanks : List Char
  firstBreak : List Char
  moreBreaks : List Char
  broken : Bool

/-- No blank space. -/
def Gap.none : Gap := ⟨[], [], [], false⟩

/-- What a gap contributes to the text. -/
def Gap.fold (g : Gap) : List Char :=
  if g.broken then
    if g.firstBreak.head? = some '\n' then
      if g.moreBreaks.isEmpty then [' '] else g.moreBreaks
    else g.firstBreak ++ g.moreBreaks
  else g.blanks

/-- Read the blank space after a part of a scalar. A tab in the indentation of a plain scalar is not
well formed. -/
def readGap (tabLimit : Nat) : Nat → Gap → Cursor → Option (Gap × Cursor)
  | 0, _, _ => Option.none
  | fuel + 1, g, c =>
      match c.peek? with
      | Option.none => some (g, c)
      | some x =>
          if isBlank x then
            if g.broken then
              if x = '\t' ∧ c.mark.column < tabLimit then Option.none
              else readGap tabLimit fuel g c.skip
            else readGap tabLimit fuel { g with blanks := g.blanks ++ [x] } c.skip
          else if isBreak x then
            let (text, next) := c.readBreak
            if g.broken then
              readGap tabLimit fuel { g with moreBreaks := g.moreBreaks ++ text } next
            else
              readGap tabLimit fuel { g with blanks := [], firstBreak := text, broken := true } next
          else some (g, c)

/-- Whether a character ends a plain scalar inside brackets. -/
def isFlowIndicator (x : Char) : Bool :=
  x == ',' || x == '[' || x == ']' || x == '\x7b' || x == '\x7d'

/-- The characters of a plain scalar up to blank space or an indicator. -/
def plainPart (flow : Bool) : Nat → List Char → Cursor → Option (List Char × Cursor)
  | 0, _, _ => none
  | fuel + 1, done, c =>
      match c.peek? with
      | none => some (done.reverse, c)
      | some x =>
          if isBlank x || isBreak x then some (done.reverse, c)
          else if flow && x == ':' && (c.ahead? 1).any (fun y => isFlowIndicator y || y == '?') then
            none
          else if (x == ':' && c.blankAhead 1) || (flow && isFlowIndicator x) then
            some (done.reverse, c)
          else plainPart flow fuel (x :: done) c.skip

/-- The parts of a plain scalar. The result has the text, the cursor after the last character of it,
the cursor after the blank space that follows, and whether that holds a line end. -/
def plainParts (flow : Bool) (indent : Nat) :
    Nat → List Char → Gap → Cursor → Cursor → Option (List Char × Cursor × Cursor × Bool)
  | 0, _, _, _, _ => none
  | fuel + 1, text, gap, stop, c =>
      if c.atDocumentMarker || c.at? '#' then some (text, stop, c, gap.broken)
      else do
        let (part, after) ← plainPart flow (c.rest.length + 1) [] c
        let (text, stop, gap) :=
          if part.isEmpty then (text, stop, gap) else (text ++ gap.fold ++ part, after, Gap.none)
        if after.atBlank || after.atBreak then
          let (gap, next) ← readGap indent (after.rest.length + 1) gap after
          if !flow && next.mark.column < indent then some (text, stop, next, gap.broken)
          else plainParts flow indent fuel text gap stop next
        else some (text, stop, after, gap.broken)

/-- Read a plain scalar. -/
def plainScalar (flow : Bool) (indent : Nat) (c : Cursor) :
    Option (List Char × Cursor × Cursor × Bool) :=
  plainParts flow indent (c.rest.length + 1) [] Gap.none c c

/-- The value of hexadecimal digits. -/
def hexValue? (digits : List Char) : Option Nat :=
  digits.foldl (fun value? x => do
    let value ← value?
    let d ← if '0' ≤ x ∧ x ≤ '9' then some (x.toNat - 0x30)
      else if 'a' ≤ x ∧ x ≤ 'f' then some (x.toNat - 0x57)
      else if 'A' ≤ x ∧ x ≤ 'F' then some (x.toNat - 0x37)
      else none
    pure (value * 16 + d)) (some 0)

/-- The character of an escape with one letter. -/
def simpleEscape? (x : Char) : Option Char :=
  match x with
  | '0' => some '\x00'
  | 'a' => some '\x07'
  | 'b' => some '\x08'
  | 't' | '\t' => some '\t'
  | 'n' => some '\n'
  | 'v' => some '\x0b'
  | 'f' => some '\x0c'
  | 'r' => some '\x0d'
  | 'e' => some '\x1b'
  | ' ' => some ' '
  | '"' => some '"'
  | '/' => some '/'
  | '\\' => some '\\'
  | 'N' => some '\u0085'
  | '_' => some '\u00a0'
  | 'L' => some '\u2028'
  | 'P' => some '\u2029'
  | _ => none

/-- Read an escape; the cursor stands at its backslash. -/
def readEscape (c : Cursor) : Option (Char × Cursor) := do
  let x ← c.ahead? 1
  let coded (length : Nat) : Option (Char × Cursor) := do
    let digits := (c.rest.drop 2).take length
    if digits.length < length then none
    else
      let value ← hexValue? digits
      if h : Nat.isValidChar value then
        some (Char.ofNatAux value h, c.skipN (length + 2))
      else none
  match x with
  | 'x' => coded 2
  | 'u' => coded 4
  | 'U' => coded 8
  | _ => (simpleEscape? x).map fun y => (y, c.skipN 2)

/-- The characters of a quoted scalar up to blank space or the closing quote. The last part of the
result tells whether an escaped line end was taken in. -/
def quotedPart (quote : Char) : Nat → List Char → Cursor → Option (List Char × Cursor × Bool)
  | 0, _, _ => none
  | fuel + 1, done, c =>
      match c.peek? with
      | none => some (done.reverse, c, false)
      | some x =>
          if isBlank x || isBreak x then some (done.reverse, c, false)
          else if quote = '\'' ∧ x = '\'' ∧ c.ahead? 1 = some '\'' then
            quotedPart quote fuel ('\'' :: done) (c.skipN 2)
          else if x = quote then some (done.reverse, c, false)
          else if quote = '"' ∧ x = '\\' then
            if (c.ahead? 1).any isBreak then some (done.reverse, c.skip.skipBreak, true)
            else do
              let (y, next) ← readEscape c
              quotedPart quote fuel (y :: done) next
          else quotedPart quote fuel (x :: done) c.skip

/-- The parts of a quoted scalar, after its opening quote. -/
def quotedParts (quote : Char) : Nat → List Char → Cursor → Option (List Char × Cursor)
  | 0, _, _ => none
  | fuel + 1, text, c =>
      if c.atDocumentMarker || c.atEnd then none
      else do
        let (part, after, joined) ← quotedPart quote (c.rest.length + 1) [] c
        if after.at? quote then some (text ++ part, after.skip)
        else
          let start : Gap := { Gap.none with broken := joined }
          let (gap, next) ← readGap 0 (after.rest.length + 1) start after
          quotedParts quote fuel (text ++ part ++ gap.fold) next

/-- Read a quoted scalar. -/
def quotedScalar (quote : Char) (c : Cursor) : Option (List Char × Cursor) :=
  quotedParts quote (c.rest.length + 1) [] c.skip

/-- What becomes of the line ends at the end of a block scalar. -/
inductive Chomping where
  | strip
  | clip
  | keep
  deriving DecidableEq

/-- The chomping that an indicator asks for. -/
def chomping? : Option Char → Option Chomping
  | some '+' => some .keep
  | some '-' => some .strip
  | _ => none

/-- The indentation that an indicator asks for; zero is not allowed. -/
def indentDigit? (x : Option Char) : Option (Option Nat) :=
  match x with
  | some d =>
      if d = '0' then none else if d.isDigit then some (some (d.toNat - 0x30)) else some none
  | none => some none

/-- Read the indicators after the first of a block scalar. -/
def blockHeader (c : Cursor) : Option (Chomping × Option Nat × Cursor) :=
  match chomping? c.peek? with
  | some chomping => do
      let c := c.skip
      let indent ← indentDigit? c.peek?
      pure (chomping, indent, if indent.isSome then c.skip else c)
  | none => do
      match ← indentDigit? c.peek? with
      | some indent =>
          let c := c.skip
          match chomping? c.peek? with
          | some chomping => pure (chomping, some indent, c.skip)
          | none => pure (.clip, some indent, c)
      | none => pure (.clip, none, c)

/-- Pass over indentation and empty lines. The result has the line ends, the greatest column reached
and the cursor at the first character that belongs to neither. -/
def blockBreaks (indent : Option Nat) :
    Nat → List Char → Nat → Cursor → Option (List Char × Nat × Cursor)
  | 0, _, _, _ => none
  | fuel + 1, breaks, widest, c =>
      let within (c : Cursor) : Bool :=
        match indent with
        | none => true
        | some n => c.mark.column < n
      if within c && c.at? ' ' then blockBreaks indent fuel breaks widest c.skip
      else
        let widest := max widest c.mark.column
        if within c && c.at? '\t' then none
        else if c.atBreak then
          let (text, next) := c.readBreak
          blockBreaks indent fuel (breaks ++ text) widest next
        else some (breaks, widest, c)

/-- The lines of a block scalar. `lineEnd` is the end of the line before and `breaks` the line ends
after it; `wasBlank` tells whether that line began with blank space. -/
def blockLines (literal : Bool) (indent : Nat) :
    Nat → List Char → List Char → List Char → Bool → Cursor →
      Option (List Char × List Char × List Char × Cursor)
  | 0, _, _, _, _, _ => none
  | fuel + 1, text, lineEnd, breaks, wasBlank, c =>
      if c.mark.column = indent ∧ ¬ c.atEnd then do
        let blank := c.atBlank
        let folded :=
          if !literal && lineEnd.head? = some '\n' && !wasBlank && !blank then
            if breaks.isEmpty then [' '] else []
          else lineEnd
        let (line, after) := c.span fun x => !isBreak x
        let (lineEnd, next) := after.readBreak
        let (more, _, next) ← blockBreaks (some indent) (next.rest.length + 1) [] 0 next
        blockLines literal indent fuel (text ++ folded ++ breaks ++ line) lineEnd more blank next
      else some (text, lineEnd, breaks, c)

/-- Read a block scalar inside a block indented by `parent`, or by nothing where it is `none`. -/
def blockScalar (literal : Bool) (parent : Option Nat) (c : Cursor) :
    Option (List Char × Cursor) := do
  let (chomping, increment, c) ← blockHeader c.skip
  let c := c.skipBlanks.skipComment
  if !c.atLineEnd then none
  else
    let c := c.skipBreak
    let fixed := increment.map fun n => parent.getD 0 + n
    let (breaks, widest, c) ← blockBreaks fixed (c.rest.length + 1) [] 0 c
    let least := max 1 ((parent.map (· + 1)).getD 0)
    let indent := fixed.getD (max widest least)
    let (text, lineEnd, breaks, c) ←
      blockLines literal indent (c.rest.length + 1) [] [] breaks false c
    let tail :=
      match chomping with
      | .strip => []
      | .clip => lineEnd
      | .keep => lineEnd ++ breaks
    pure (text ++ tail, c)

end GaleraProxy.Yaml
