/-!
# Errors in JSON texts

A JSON text is read byte by byte. An error has a cause and the number of bytes taken in when it was
noticed; `Json.Error.message` adds the line and column of that point.
-/

namespace GaleraProxy.Json

/-- What is wrong with a JSON text. -/
inductive ErrorKind where
  | eofInValue
  | eofInList
  | eofInObject
  | eofInString
  | expectedValue
  | expectedIdent
  | expectedColon
  | expectedListEnd
  | expectedObjectEnd
  | keyNotString
  | trailingComma
  | trailingCharacters
  | invalidNumber
  | numberOutOfRange
  | invalidEscape
  | unpairedSurrogate
  | unexpectedEndOfHexEscape
  | controlCharacter
  | invalidUtf8
  deriving Repr, DecidableEq

/-- The words for an error. -/
def ErrorKind.message : ErrorKind → String
  | .eofInValue => "EOF while parsing a value"
  | .eofInList => "EOF while parsing a list"
  | .eofInObject => "EOF while parsing an object"
  | .eofInString => "EOF while parsing a string"
  | .expectedValue => "expected value"
  | .expectedIdent => "expected ident"
  | .expectedColon => "expected `:`"
  | .expectedListEnd => "expected `,` or `]`"
  | .expectedObjectEnd => "expected `,` or `\x7d`"
  | .keyNotString => "key must be a string"
  | .trailingComma => "trailing comma"
  | .trailingCharacters => "trailing characters"
  | .invalidNumber => "invalid number"
  | .numberOutOfRange => "number out of range"
  | .invalidEscape => "invalid escape"
  | .unpairedSurrogate => "lone leading surrogate in hex escape"
  | .unexpectedEndOfHexEscape => "unexpected end of hex escape"
  | .controlCharacter => "control character (\\u0000-\\u001F) found while parsing a string"
  | .invalidUtf8 => "invalid unicode code point"

/-- An error and how many bytes had been taken in when it was noticed. -/
structure Error where
  kind : ErrorKind
  offset : Nat
  deriving Repr, DecidableEq

/-- The line and column reached after the bytes, both starting at `line` and `column`. -/
def location (line column : Nat) : List UInt8 → Nat × Nat
  | [] => (line, column)
  | b :: rest => if b = 10 then location (line + 1) 0 rest else location line (column + 1) rest

/-- A message with the place in the source that lies after `offset` bytes. -/
def located (source : List UInt8) (offset : Nat) (message : String) : String :=
  let (line, column) := location 1 0 (source.take offset)
  message ++ " at line " ++ toString line ++ " column " ++ toString column

/-- The words for an error in a source. -/
def Error.message (source : List UInt8) (e : Error) : String :=
  located source e.offset e.kind.message

/-- What is left to read, and how many bytes came before it. -/
structure Input where
  offset : Nat
  rest : List UInt8
  deriving Repr

/-- The input after its first `n` bytes. -/
def Input.advance (input : Input) (n : Nat) : Input :=
  ⟨input.offset + n, input.rest.drop n⟩

/-- An error at the bytes taken in so far. -/
def Input.fail {α : Type} (input : Input) (kind : ErrorKind) : Except Error α :=
  .error ⟨kind, input.offset⟩

/-- An error at the next byte, which counts as taken in if there is one. -/
def Input.failNext {α : Type} (input : Input) (kind : ErrorKind) : Except Error α :=
  .error ⟨kind, if input.rest.isEmpty then input.offset else input.offset + 1⟩

/-- Whether a byte is blank space. -/
def isBlank (b : UInt8) : Bool := b == 0x20 || b == 0x0A || b == 0x0D || b == 0x09

/-- Whether a byte is a decimal digit. -/
def isDigit (b : UInt8) : Bool := 0x30 ≤ b && b ≤ 0x39

/-- Skip blank space from an offset on. -/
def skipBlankFrom (offset : Nat) : List UInt8 → Input
  | [] => ⟨offset, []⟩
  | b :: rest => if isBlank b then skipBlankFrom (offset + 1) rest else ⟨offset, b :: rest⟩

/-- Skip blank space. -/
def Input.skipBlank (input : Input) : Input := skipBlankFrom input.offset input.rest

/-- Skip digits from an offset on. -/
def skipDigitsFrom (offset : Nat) : List UInt8 → Input
  | [] => ⟨offset, []⟩
  | b :: rest => if isDigit b then skipDigitsFrom (offset + 1) rest else ⟨offset, b :: rest⟩

/-- Skip digits. -/
def Input.skipDigits (input : Input) : Input := skipDigitsFrom input.offset input.rest

/-- Read the remaining letters of a literal. -/
def Input.expect (input : Input) : List UInt8 → Except Error Input
  | [] => .ok input
  | letter :: letters =>
      match input.rest with
      | [] => input.fail .eofInValue
      | b :: rest =>
          let next : Input := ⟨input.offset + 1, rest⟩
          if b = letter then next.expect letters else next.fail .expectedIdent

end GaleraProxy.Json
