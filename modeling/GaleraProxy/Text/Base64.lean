/-!
# Base64

The standard alphabet, the encoding with or without padding, and two decoders. `Base64.decode`
allows blank space and missing padding and says what is wrong; `Base64.decodeLoose?` drops all
padding at the end and bits that fill no byte.
-/

namespace GaleraProxy.Base64

/-- The value of a character of the standard alphabet. -/
def value? (b : UInt8) : Option Nat :=
  if 0x41 ≤ b ∧ b ≤ 0x5A then some (b.toNat - 0x41)
  else if 0x61 ≤ b ∧ b ≤ 0x7A then some (b.toNat - 0x61 + 26)
  else if 0x30 ≤ b ∧ b ≤ 0x39 then some (b.toNat - 0x30 + 52)
  else if b = 0x2B then some 62
  else if b = 0x2F then some 63
  else none

/-- The character of the standard alphabet with a value. -/
def letter (v : Nat) : UInt8 :=
  if v < 26 then UInt8.ofNat (0x41 + v)
  else if v < 52 then UInt8.ofNat (0x61 + v - 26)
  else if v < 62 then UInt8.ofNat (0x30 + v - 52)
  else if v = 62 then 0x2B else 0x2F

/-- The padding character. -/
def pad : UInt8 := 0x3D

/-- The standard encoding with complete padding. -/
def encode : List UInt8 → List UInt8
  | [] => []
  | [a] => [letter (a.toNat / 4), letter (a.toNat % 4 * 16), pad, pad]
  | [a, b] =>
      [letter (a.toNat / 4), letter (a.toNat % 4 * 16 + b.toNat / 16), letter (b.toNat % 16 * 4),
       pad]
  | a :: b :: c :: rest =>
      letter (a.toNat / 4) :: letter (a.toNat % 4 * 16 + b.toNat / 16)
        :: letter (b.toNat % 16 * 4 + c.toNat / 64) :: letter (c.toNat % 64) :: encode rest

/-- Bits that do not fill a byte yet: how many, and their value. -/
structure Pending where
  bits : Nat
  value : Nat
  deriving DecidableEq, Repr

/-- Take in six bits; a full byte comes out. -/
def Pending.push (p : Pending) (v : Nat) : Pending × Option UInt8 :=
  let bits := p.bits + 6
  let value := p.value * 64 + v
  if 8 ≤ bits then
    let unit := Nat.pow 2 (bits - 8)
    (⟨bits - 8, value % unit⟩, some (UInt8.ofNat (value / unit)))
  else (⟨bits, value⟩, none)

/-- Decode characters of the alphabet after pending bits; bits left over at the end are dropped. -/
def decodeFrom? (p : Pending) : List UInt8 → Option (List UInt8)
  | [] => some []
  | c :: rest =>
      match value? c with
      | none => none
      | some v =>
          match p.push v with
          | (p, none) => decodeFrom? p rest
          | (p, some b) => (decodeFrom? p rest).map (b :: ·)

/-- Drop the padding at the end. -/
def dropPadding (text : List UInt8) : List UInt8 :=
  (text.reverse.dropWhile (· == pad)).reverse

/-- Decode a text without regard to its padding. -/
def decodeLoose? (text : List UInt8) : Option (List UInt8) :=
  decodeFrom? ⟨0, 0⟩ (dropPadding text)

/-- What is wrong with an encoded text. -/
inductive Error where
  | invalidCharacter (byte : UInt8)
  | prematurePadding
  | invalidTrailingPadding
  deriving Repr, DecidableEq

/-- The words for an error. -/
def Error.message : Error → String
  | .invalidCharacter b => "InvalidCharacter(" ++ toString b.toNat ++ ")"
  | .prematurePadding => "PrematurePadding"
  | .invalidTrailingPadding => "InvalidTrailingPadding"

/-- Whether a byte is blank space, which an encoded text may contain anywhere. -/
def isBlank (b : UInt8) : Bool := b == 0x20 || b == 0x09 || b == 0x0A || b == 0x0D

/-- The values of the characters, `none` for padding, without blank space. A block of eight is
checked for padding when a character follows it: padding belongs into the last block. -/
def symbols (block : List (Option Nat)) (done : List (List (Option Nat))) :
    List UInt8 → Except Error (List (List (Option Nat)))
  | [] => .ok ((block.reverse :: done).reverse)
  | b :: rest =>
      if isBlank b then symbols block done rest
      else
        let symbol? : Option (Option Nat) := if b == pad then some none else (value? b).map some
        match symbol? with
        | none => .error (.invalidCharacter b)
        | some symbol =>
            if block.length = 8 then
              if block.any Option.isNone then .error .prematurePadding
              else symbols [symbol] (block.reverse :: done) rest
            else symbols (symbol :: block) done rest

/-- The bytes of four values. -/
def bytesOf (a b c d : Nat) : List UInt8 :=
  [UInt8.ofNat (a * 4 + b / 16), UInt8.ofNat (b % 16 * 16 + c / 4), UInt8.ofNat (c % 4 * 64 + d)]

/-- The bytes of a last group of at most four symbols. -/
def lastGroup : List (Option Nat) → Except Error (List UInt8)
  | [] => .ok []
  | [some a, some b, some c, some d] => .ok (bytesOf a b c d)
  | [some a, some b, some c, none] | [some a, some b, some c] => .ok ((bytesOf a b c 0).take 2)
  | [some a, some b, none, none] | [some a, some b] => .ok ((bytesOf a b 0 0).take 1)
  | _ => .error .invalidTrailingPadding

/-- The bytes of a group that is not the last. -/
def innerGroup : List (Option Nat) → Except Error (List UInt8)
  | [some a, some b, some c, some d] => .ok (bytesOf a b c d)
  | _ => .error .prematurePadding

/-- The bytes of the blocks. -/
def blocksToBytes : List (List (Option Nat)) → Except Error (List UInt8)
  | [] => .ok []
  | [block] =>
      if 4 < block.length then do
        let front ← innerGroup (block.take 4)
        let back ← lastGroup (block.drop 4)
        pure (front ++ back)
      else lastGroup block
  | block :: blocks => do
      let front ← innerGroup (block.take 4)
      let back ← innerGroup (block.drop 4)
      let rest ← blocksToBytes blocks
      pure (front ++ back ++ rest)

/-- Decode a text that may contain blank space and leave out its padding. -/
def decode (text : List UInt8) : Except Error (List UInt8) := do
  blocksToBytes (← symbols [] [] text)

end GaleraProxy.Base64
