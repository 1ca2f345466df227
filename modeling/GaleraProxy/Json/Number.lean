import GaleraProxy.Document.Node
import GaleraProxy.Json.Error

/-!
# Numbers in JSON texts

A number without fraction and exponent is whole if it fits 64 bits; every other number is a binary64
value. The significand is collected in 64 bits, digits that no longer fit only shift it, and the
power of ten is applied to the rounded significand.
-/

namespace GaleraProxy.Json

open Document (Scalar)

/-- The greatest 64-bit number. -/
def maxWord : Nat := UInt64.size - 1

/-- The numeric value of a digit. -/
def digitValue (b : UInt8) : Nat := b.toNat - 0x30

/-- Digits collected into a significand, as far as they fit: the significand, how many digits it
took, and the input at the first byte that is no digit or does not fit. -/
def collect (significand taken offset : Nat) : List UInt8 → Nat × Nat × Input
  | [] => (significand, taken, ⟨offset, []⟩)
  | b :: rest =>
      if isDigit b then
        let next := significand * 10 + digitValue b
        if maxWord < next then (significand, taken, ⟨offset, b :: rest⟩)
        else collect next (taken + 1) (offset + 1) rest
      else (significand, taken, ⟨offset, b :: rest⟩)

/-- Apply a power of ten to a rounded significand. Powers beyond the 308th are applied in turns. -/
def applyPower (input : Input) : Nat → Binary64 → Int → Except Error Binary64
  | 0, x, _ => .ok x
  | fuel + 1, x, power =>
      if power.natAbs ≤ 308 then
        if 0 ≤ power then
          let y := x.scaleByTen power.toNat
          if y.isInfinite then input.fail .numberOutOfRange else .ok y
        else .ok (x.overPowerOfTen power.natAbs)
      else if x.isZero then .ok x
      else if 0 ≤ power then input.fail .numberOutOfRange
      else applyPower input fuel (x.overPowerOfTen 308) (power + 308)

/-- The binary64 value of a significand and a power of ten. -/
def realOf (negative : Bool) (significand : Nat) (power : Int) (input : Input) :
    Except Error (Scalar × Input) := do
  let x ← applyPower input 20 (.ofNat significand) power
  pure (.real (if negative then x.neg else x), input)

/-- The greatest power of ten that is counted. -/
def maxPower : Nat := Int32.maxValue.toInt.toNat

/-- The digits of an exponent: its value, or `none` where it stops being counted, and the input
after the digits looked at. -/
def exponentDigits (value offset : Nat) : List UInt8 → Option Nat × Input
  | [] => (some value, ⟨offset, []⟩)
  | b :: rest =>
      if isDigit b then
        let next := value * 10 + digitValue b
        if maxPower < next then (none, ⟨offset + 1, rest⟩)
        else exponentDigits next (offset + 1) rest
      else (some value, ⟨offset, b :: rest⟩)

/-- Keep a power of ten within 32 bits. -/
def clampPower (power : Int) : Int := max Int32.minValue.toInt (min Int32.maxValue.toInt power)

/-- Read an exponent; the input stands at its letter. -/
def exponent (negative : Bool) (significand : Nat) (power : Int) (input : Input) :
    Except Error (Scalar × Input) :=
  let input := input.advance 1
  let (down, input) :=
    match input.rest with
    | 0x2B :: _ => (false, input.advance 1)
    | 0x2D :: _ => (true, input.advance 1)
    | _ => (false, input)
  match input.rest with
  | [] => input.fail .eofInValue
  | b :: rest =>
      if isDigit b then
        match exponentDigits (digitValue b) (input.offset + 1) rest with
        | (some value, input) =>
            let power := if down then power - (value : Int) else power + (value : Int)
            realOf negative significand (clampPower power) input
        | (none, input) =>
            if significand ≠ 0 ∧ ¬ down then input.fail .numberOutOfRange
            else .ok (.real (.finite negative 0 0), input.skipDigits)
      else (input.advance 1).fail .invalidNumber

/-- Read an exponent if one follows. -/
def exponent? (negative : Bool) (significand : Nat) (power : Int) (input : Input) :
    Except Error (Scalar × Input) :=
  match input.rest with
  | 0x65 :: _ | 0x45 :: _ => exponent negative significand power input
  | _ => realOf negative significand power input

/-- Read a fraction; the input stands at its point. -/
def fraction (negative : Bool) (significand : Nat) (power : Int) (input : Input) :
    Except Error (Scalar × Input) :=
  let input := input.advance 1
  let (significand', taken, after) := collect significand 0 input.offset input.rest
  match after.rest with
  | b :: _ =>
      if isDigit b then exponent? negative significand' (power - taken) after.skipDigits
      else if taken = 0 then after.failNext .invalidNumber
      else exponent? negative significand' (power - taken) after
  | [] =>
      if taken = 0 then after.failNext .eofInValue
      else exponent? negative significand' (power - taken) after

/-- Read what follows the whole part of a number. -/
def afterWhole (negative : Bool) (significand : Nat) (input : Input) :
    Except Error (Scalar × Input) :=
  match input.rest with
  | 0x2E :: _ => fraction negative significand 0 input
  | 0x65 :: _ | 0x45 :: _ => exponent negative significand 0 input
  | _ =>
      if negative then
        if significand = 0 ∨ Int64.minValue.toInt.natAbs < significand then
          .ok (.real (Binary64.ofNat significand).neg, input)
        else .ok (.int (-(significand : Int)), input)
      else .ok (.int significand, input)

/-- Read what follows the first digits of a whole part that does not fit: further digits only shift
the significand. -/
def afterLongWhole (negative : Bool) (significand : Nat) (input : Input) :
    Except Error (Scalar × Input) :=
  let after := input.skipDigits
  let shift : Int := (after.offset - input.offset : Nat)
  match after.rest with
  | 0x2E :: _ => fraction negative significand shift after
  | 0x65 :: _ | 0x45 :: _ => exponent negative significand shift after
  | _ => realOf negative significand shift after

/-- Read a number; the input stands after its sign. -/
def number (negative : Bool) (input : Input) : Except Error (Scalar × Input) :=
  match input.rest with
  | [] => input.fail .eofInValue
  | 0x30 :: rest =>
      let next : Input := ⟨input.offset + 1, rest⟩
      match rest with
      | b :: _ => if isDigit b then next.failNext .invalidNumber else afterWhole negative 0 next
      | [] => afterWhole negative 0 next
  | b :: _ =>
      if isDigit b then
        let (significand, _, after) := collect 0 0 input.offset input.rest
        match after.rest with
        | c :: _ =>
            if isDigit c then afterLongWhole negative significand after
            else afterWhole negative significand after
        | [] => afterWhole negative significand after
      else (input.advance 1).fail .invalidNumber

/-- Pass over an exponent. -/
def skipExponent (input : Input) : Except Error Input :=
  let input := input.advance 1
  let input :=
    match input.rest with
    | 0x2B :: _ | 0x2D :: _ => input.advance 1
    | _ => input
  match input.rest with
  | b :: _ => if isDigit b then .ok input.skipDigits else (input.advance 1).fail .invalidNumber
  | [] => input.fail .invalidNumber

/-- Pass over an exponent if one follows. -/
def skipExponent? (input : Input) : Except Error Input :=
  match input.rest with
  | 0x65 :: _ | 0x45 :: _ => skipExponent input
  | _ => .ok input

/-- Pass over what follows the whole part of a number. -/
def skipAfterWhole (input : Input) : Except Error Input :=
  match input.rest with
  | 0x2E :: _ =>
      let start := input.advance 1
      let after := start.skipDigits
      if after.offset = start.offset then after.failNext .invalidNumber else skipExponent? after
  | _ => skipExponent? input

/-- Pass over a number; the input stands after its sign. -/
def skipNumber (input : Input) : Except Error Input :=
  match input.rest with
  | [] => input.fail .invalidNumber
  | 0x30 :: rest =>
      let next : Input := ⟨input.offset + 1, rest⟩
      match rest with
      | b :: _ => if isDigit b then next.failNext .invalidNumber else skipAfterWhole next
      | [] => skipAfterWhole next
  | b :: _ =>
      if isDigit b then skipAfterWhole input.skipDigits
      else (input.advance 1).fail .invalidNumber

end GaleraProxy.Json
