import GaleraProxy.Text.Percent
import GaleraProxy.Text.Utf8

/-!
# Form fields

The query of a URI lists fields separated by ampersands. Keys and values are separated by the first
equals sign, a plus sign stands for a blank, and bytes may be percent encoded.
-/

namespace GaleraProxy.Http

/-- The bytes up to the first separator and those after it. -/
def splitAtByte (separator : UInt8) (bytes : List UInt8) : List UInt8 × List UInt8 :=
  (bytes.takeWhile (· != separator), (bytes.dropWhile (· != separator)).drop 1)

/-- The parts between separators. -/
def splitParts (separator : UInt8) : List UInt8 → List (List UInt8)
  | [] => [[]]
  | b :: rest =>
      if b == separator then [] :: splitParts separator rest
      else
        match splitParts separator rest with
        | part :: parts => (b :: part) :: parts
        | [] => [[b]]

/-- The text of a key or value. -/
def formText (bytes : List UInt8) : String :=
  let spaced := bytes.map fun b => if b == 0x2B then 0x20 else b
  Utf8.decodeLossy (Percent.decode spaced)

/-- The fields of a query in their order. -/
def formFields (query : String) : List (String × String) :=
  let parts := (splitParts 0x26 (Utf8.encode query)).filter fun part => !part.isEmpty
  parts.map fun part =>
    let (key, value) := splitAtByte 0x3D part
    (formText key, formText value)

end GaleraProxy.Http
