/-!
# Reading YAML character by character

A cursor stands in a YAML text: it holds what is left to read and counts the characters, lines and
columns passed. Five characters end a line, and a carriage return with a line feed ends only one.
-/

namespace GaleraProxy.Yaml

/-- A place in a text: the number of characters before it, its line and its column. -/
structure Mark where
  index : Nat
  line : Nat
  column : Nat
  deriving DecidableEq, Repr

/-- What is left of a text, and where it stands. -/
structure Cursor where
  rest : List Char
  mark : Mark

/-- Whether a character is a space or a tab. -/
def isBlank (c : Char) : Bool := c == ' ' || c == '\t'

/-- Whether a character ends a line. -/
def isBreak (c : Char) : Bool :=
  c == '\n' || c == '\x0d' || c.toNat == 0x85 || c.toNat == 0x2028 || c.toNat == 0x2029

/-- Whether a character may stand in a name. -/
def isNameChar (c : Char) : Bool := c.isAlphanum || c == '_' || c == '-'

/-- Whether a character may stand in a text at all. -/
def isAllowed (c : Char) : Bool :=
  let n := c.toNat
  n == 9 || n == 10 || n == 13 || (0x20 ≤ n && n ≤ 0x7E) || n == 0x85 || (0xA0 ≤ n && n ≤ 0xD7FF)
    || (0xE000 ≤ n && n ≤ 0xFFFD) || 0x10000 ≤ n

namespace Cursor

/-- The start of a text. -/
def start (text : List Char) : Cursor := ⟨text, ⟨0, 0, 0⟩⟩

/-- The next character. -/
def peek? (c : Cursor) : Option Char := c.rest.head?

/-- The character `n` places ahead. -/
def ahead? (c : Cursor) (n : Nat) : Option Char := c.rest[n]?

/-- Whether the next character is the given one. -/
def at? (c : Cursor) (x : Char) : Bool := c.peek? == some x

/-- Whether there is nothing left. -/
def atEnd (c : Cursor) : Bool := c.rest.isEmpty

/-- Whether the character `n` places ahead is a space, a tab, a line end or the end of the text. -/
def blankAhead (c : Cursor) (n : Nat) : Bool :=
  match c.ahead? n with
  | none => true
  | some x => isBlank x || isBreak x

/-- Whether the next character is a space or a tab. -/
def atBlank (c : Cursor) : Bool := c.peek?.any isBlank

/-- Whether the next character ends the line. -/
def atBreak (c : Cursor) : Bool := c.peek?.any isBreak

/-- Whether the line or the text ends here. -/
def atLineEnd (c : Cursor) : Bool := c.atEnd || c.atBreak

/-- Whether the next characters are the given ones. -/
def startsWith (c : Cursor) (front : String) : Bool := front.toList.isPrefixOf c.rest

/-- Pass over a character within a line. -/
def skip (c : Cursor) : Cursor :=
  match c.rest with
  | [] => c
  | _ :: rest =>
      ⟨rest, { c.mark with index := c.mark.index + 1, column := c.mark.column + 1 }⟩

/-- Pass over `n` characters within a line. -/
def skipN : Nat → Cursor → Cursor
  | 0, c => c
  | n + 1, c => skipN n c.skip

/-- Take in a line end. It reads as a line feed unless it is one of the two separators that are kept
as they are. -/
def readBreak (c : Cursor) : List Char × Cursor :=
  let next (n : Nat) : Cursor :=
    ⟨c.rest.drop n, ⟨c.mark.index + n, c.mark.line + 1, 0⟩⟩
  match c.rest with
  | '\x0d' :: '\n' :: _ => (['\n'], next 2)
  | x :: _ =>
      if x == '\n' || x == '\x0d' || x.toNat == 0x85 then (['\n'], next 1)
      else if isBreak x then ([x], next 1) else ([], c)
  | [] => ([], c)

/-- Pass over a line end. -/
def skipBreak (c : Cursor) : Cursor := c.readBreak.2

/-- The longest stretch of characters of a kind, none of which ends a line, and the cursor after
it. -/
def spanFrom (p : Char → Bool) (mark : Mark) : List Char → List Char × Cursor
  | [] => ([], ⟨[], mark⟩)
  | x :: rest =>
      if p x then
        let (taken, after) :=
          spanFrom p { mark with index := mark.index + 1, column := mark.column + 1 } rest
        (x :: taken, after)
      else ([], ⟨x :: rest, mark⟩)

/-- The longest stretch of characters of a kind, none of which ends a line, and the cursor after
it. -/
def span (p : Char → Bool) (c : Cursor) : List Char × Cursor := spanFrom p c.mark c.rest

/-- Pass over characters of a kind. -/
def skipWhile (p : Char → Bool) (c : Cursor) : Cursor := (c.span p).2

/-- Pass over spaces and tabs. -/
def skipBlanks (c : Cursor) : Cursor := c.skipWhile isBlank

/-- Pass over a comment if one begins here. -/
def skipComment (c : Cursor) : Cursor :=
  if c.at? '#' then c.skipWhile fun x => !isBreak x else c

/-- Whether a marker of a document's start or end stands here. -/
def atDocumentMarker (c : Cursor) : Bool :=
  c.mark.column == 0 && (c.startsWith "---" || c.startsWith "...") && c.blankAhead 3

end Cursor

end GaleraProxy.Yaml
