import GaleraProxy.Json.Error
import GaleraProxy.Text.Utf8

/-!
# Texts in JSON texts

`textBody` reads a text after its opening quote and `skipText` passes over one. A text that is read
must be well-formed UTF-8 and pair its surrogate escapes; one that is passed over need not.
-/

namespace GaleraProxy.Json

/-- The value of a hexadecimal digit. -/
def hexValue? (b : UInt8) : Option Nat :=
  if 0x30 ≤ b ∧ b ≤ 0x39 then some (b.toNat - 0x30)
  else if 0x61 ≤ b ∧ b ≤ 0x66 then some (b.toNat - 0x57)
  else if 0x41 ≤ b ∧ b ≤ 0x46 then some (b.toNat - 0x37)
  else none

/-- Read the four digits of a hexadecimal escape. -/
def hexEscape (input : Input) : Except Error (Nat × Input) :=
  match input.rest with
  | a :: b :: c :: d :: _ =>
      let next := input.advance 4
      match hexValue? a, hexValue? b, hexValue? c, hexValue? d with
      | some a, some b, some c, some d => .ok (((a * 16 + b) * 16 + c) * 16 + d, next)
      | _, _, _, _ => next.fail .invalidEscape
  | rest => (input.advance rest.length).fail .eofInString

/-- Read a required byte in the middle of a surrogate pair. -/
def pairByte (input : Input) (expected : UInt8) : Except Error Input :=
  match input.rest with
  | [] => input.fail .eofInString
  | b :: _ =>
      if b = expected then .ok (input.advance 1)
      else (input.advance 1).fail .unexpectedEndOfHexEscape

/-- Read the digits of a `\u` escape, and those of a second one after a leading surrogate. -/
def unicodeEscape (input : Input) : Except Error (Char × Input) := do
  let (first, input) ← hexEscape input
  if 0xDC00 ≤ first ∧ first ≤ 0xDFFF then input.fail .unpairedSurrogate
  else if 0xD800 ≤ first ∧ first ≤ 0xDBFF then
    let input ← pairByte input 0x5C
    let input ← pairByte input 0x75
    let (second, input) ← hexEscape input
    if 0xDC00 ≤ second ∧ second ≤ 0xDFFF then
      pure (Char.ofNat ((first - 0xD800) * 0x400 + (second - 0xDC00) + 0x10000), input)
    else input.fail .unpairedSurrogate
  else pure (Char.ofNat first, input)

/-- The character that a one-letter escape stands for. -/
def simpleEscape? (b : UInt8) : Option Char :=
  if b = 0x22 then some '"'
  else if b = 0x5C then some '\\'
  else if b = 0x2F then some '/'
  else if b = 0x62 then some '\x08'
  else if b = 0x66 then some '\x0c'
  else if b = 0x6E then some '\n'
  else if b = 0x72 then some '\x0d'
  else if b = 0x74 then some '\t'
  else none

/-- Read an escape after its backslash. -/
def escape (input : Input) : Except Error (Char × Input) :=
  match input.rest with
  | [] => input.fail .eofInString
  | b :: _ =>
      let next := input.advance 1
      if b = 0x75 then unicodeEscape next
      else match simpleEscape? b with
        | some c => .ok (c, next)
        | none => next.fail .invalidEscape

/-- Read the bytes of a text up to its closing quote. `done` holds them in reverse. -/
def textBytes : Nat → List UInt8 → Input → Except Error (List UInt8 × Input)
  | 0, _, input => input.fail .eofInString
  | fuel + 1, done, input =>
      match input.rest with
      | [] => input.fail .eofInString
      | b :: _ =>
          let next := input.advance 1
          if b = 0x22 then .ok (done.reverse, next)
          else if b = 0x5C then do
            let (c, next) ← escape next
            textBytes fuel ((Utf8.encode (String.singleton c)).reverse ++ done) next
          else if b < 0x20 then next.fail .controlCharacter
          else textBytes fuel (b :: done) next

/-- Read a text after its opening quote. -/
def textBody (input : Input) : Except Error (String × Input) := do
  let (bytes, after) ← textBytes (input.rest.length + 1) [] input
  match Utf8.decode? bytes with
  | some s => pure (s, after)
  | none => after.fail .invalidUtf8

/-- Pass over an escape after its backslash. -/
def skipEscape (input : Input) : Except Error Input :=
  match input.rest with
  | [] => input.fail .eofInString
  | b :: _ =>
      let next := input.advance 1
      if b = 0x75 then (hexEscape next).map (·.2)
      else if (simpleEscape? b).isSome then .ok next
      else next.fail .invalidEscape

/-- Pass over a text after its opening quote. -/
def skipTextBytes : Nat → Input → Except Error Input
  | 0, input => input.fail .eofInString
  | fuel + 1, input =>
      match input.rest with
      | [] => input.fail .eofInString
      | b :: _ =>
          let next := input.advance 1
          if b = 0x22 then .ok next
          else if b = 0x5C then do skipTextBytes fuel (← skipEscape next)
          else if b < 0x20 then next.fail .controlCharacter
          else skipTextBytes fuel next

/-- Pass over a text after its opening quote. -/
def skipText (input : Input) : Except Error Input :=
  skipTextBytes (input.rest.length + 1) input

end GaleraProxy.Json
