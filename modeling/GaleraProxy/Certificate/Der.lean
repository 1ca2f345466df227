/-!
# Tagged values

The encoding of certificates is a sequence of values, each with a tag, a length in its shortest form
and its contents. The readers take what is left of an encoding and return a value with what is left
after it.
-/

namespace GaleraProxy.Der

/-- What is left to read. -/
abbrev Bytes := List UInt8

/-- The tag of an integer. -/
def integerTag : UInt8 := 0x02

/-- The tag of a string of bits. -/
def bitStringTag : UInt8 := 0x03

/-- The tag of a string of bytes. -/
def octetStringTag : UInt8 := 0x04

/-- The tag of an object identifier. -/
def identifierTag : UInt8 := 0x06

/-- The tag of a truth value. -/
def booleanTag : UInt8 := 0x01

/-- The tag of a sequence. -/
def sequenceTag : UInt8 := 0x30

/-- The tag of the field with a number, in brackets. -/
def fieldTag (n : UInt8) : UInt8 := 0xA0 + n

/-- The length that several bytes stand for. It must need that many of them. -/
def longLength? (count : Nat) (rest : Bytes) : Option (Nat × Bytes) :=
  let bytes := rest.take count
  let length := bytes.foldl (fun n b => n * 256 + b.toNat) 0
  let least := if count = 1 then 128 else Nat.pow 256 (count - 1)
  if bytes.length = count ∧ least ≤ length then some (length, rest.drop count) else none

/-- A length. -/
def length? : Bytes → Option (Nat × Bytes)
  | [] => none
  | b :: rest =>
      if b < 0x80 then some (b.toNat, rest)
      else if b = 0x81 then longLength? 1 rest
      else if b = 0x82 then longLength? 2 rest
      else if b = 0x83 then longLength? 3 rest
      else if b = 0x84 then longLength? 4 rest
      else none

/-- Contents have fewer bytes than this. -/
def sizeLimit : Nat := 0xFFFF

/-- A tag of one byte, the contents, and what is left after them. -/
def value? : Bytes → Option (UInt8 × Bytes × Bytes)
  | [] => none
  | tag :: rest =>
      if tag &&& 0x1F = 0x1F then none
      else
        match length? rest with
        | none => none
        | some (length, rest) =>
            if length < sizeLimit ∧ length ≤ rest.length then
              some (tag, rest.take length, rest.drop length)
            else none

/-- The contents of a value with the expected tag. -/
def expect? (tag : UInt8) (rest : Bytes) : Option (Bytes × Bytes) :=
  match value? rest with
  | some (found, contents, rest) => if found = tag then some (contents, rest) else none
  | none => none

/-- The values of a sequence with the expected tag each. -/
def items? (tag : UInt8) : Nat → Bytes → Option (List Bytes)
  | _, [] => some []
  | 0, _ => none
  | fuel + 1, rest => do
      let (item, rest) ← expect? tag rest
      let items ← items? tag fuel rest
      pure (item :: items)

end GaleraProxy.Der
