/-!
# Punycode

The code by which a label with other than basic characters is written in basic ones: the basic
characters first, then for each other character, in ascending order, the distance to its place as a
number with digits of varying weight. `Punycode.decode?` reads such a label.
-/

namespace GaleraProxy.Punycode

/-- The value of a digit: letters from 0, then decimal digits from 26. -/
def digit? (c : Char) : Option Nat :=
  if 'a' ≤ c ∧ c ≤ 'z' then some (c.toNat - 'a'.toNat)
  else if 'A' ≤ c ∧ c ≤ 'Z' then some (c.toNat - 'A'.toNat)
  else if '0' ≤ c ∧ c ≤ '9' then some (c.toNat - '0'.toNat + 26)
  else none

/-- The greatest number that is counted. -/
def maxCount : Nat := UInt32.size - 1

/-- The threshold of the digit at weight position `k`. -/
def threshold (k bias : Nat) : Nat :=
  if k ≤ bias then 1 else if bias + 26 ≤ k then 26 else k - bias

/-- Divide a distance by 35 until it is small, counting 36 per division. -/
def shrink : Nat → Nat → Nat → Nat × Nat
  | 0, delta, k => (delta, k)
  | fuel + 1, delta, k => if 455 < delta then shrink fuel (delta / 35) (k + 36) else (delta, k)

/-- The bias after a distance was read. -/
def adapt (delta count : Nat) (first : Bool) : Nat :=
  let delta := if first then delta / 700 else delta / 2
  let (delta, k) := shrink 32 (delta + delta / count) 0
  k + 36 * delta / (delta + 38)

/-- Read a distance and add it to `i`. -/
def readDistance (bias : Nat) : Nat → Nat → Nat → List Char → Option (Nat × List Char)
  | _, _, _, [] => none
  | i, weight, k, c :: rest => do
      let d ← digit? c
      let i := i + d * weight
      let t := threshold k bias
      if maxCount < i then none
      else if d < t then some (i, rest)
      else
        let weight := weight * (36 - t)
        if maxCount < weight then none else readDistance bias i weight (k + 36) rest

/-- Decoding under way: the text so far, the code point under consideration, the place reached and
the bias. -/
structure State where
  text : List Char
  codePoint : Nat
  place : Nat
  bias : Nat

/-- Put a character into a text. -/
def insertAt (text : List Char) (i : Nat) (c : Char) : List Char :=
  text.take i ++ c :: text.drop i

/-- Read distances until the input ends. -/
def readAll : Nat → State → List Char → Option (List Char)
  | _, s, [] => some s.text
  | 0, _, _ => none
  | fuel + 1, s, rest => do
      let (i, rest) ← readDistance s.bias s.place 1 36 rest
      let count := s.text.length + 1
      let bias := adapt (i - s.place) count (s.place == 0)
      let codePoint := s.codePoint + i / count
      let place := i % count
      if h : Nat.isValidChar codePoint then
        let c := Char.ofNatAux codePoint h
        readAll fuel
          { text := insertAt s.text place c, codePoint, place := place + 1, bias } rest
      else none

/-- Split at the last hyphen, if there is one after the first character. -/
def splitBasic (label : List Char) : List Char × List Char :=
  let back := label.reverse
  let tail := (back.takeWhile (· ≠ '-')).reverse
  let front := ((back.dropWhile (· ≠ '-')).drop 1).reverse
  if front.isEmpty then ([], label) else (front, tail)

/-- The text of an encoded label. -/
def decode? (label : List Char) : Option (List Char) :=
  let (basic, rest) := splitBasic label
  readAll rest.length { text := basic, codePoint := 128, place := 0, bias := 72 } rest

end GaleraProxy.Punycode
