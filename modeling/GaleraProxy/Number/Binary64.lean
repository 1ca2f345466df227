/-!
# Binary64 numbers in exact arithmetic

A binary64 value as a sign, a natural significand and a power of two, so that reading a decimal,
multiplying and dividing are exact rational arithmetic followed by one rounding. `ofRatio` is the
only place that rounds: it takes the nearest representable value of a quotient and lets a tie go to
the even significand.
-/

namespace GaleraProxy

/-- A binary64 value. A finite one stands for `significand * 2 ^ exponent` with its sign. -/
inductive Binary64 where
  | finite (negative : Bool) (significand : Nat) (exponent : Int)
  | infinite (negative : Bool)
  | nan
  deriving DecidableEq, Repr

namespace Binary64

/-- The least exponent of a binary64 value, that of its subnormal numbers. -/
def minExponent : Int := -1074

/-- The greatest exponent of a binary64 value. -/
def maxExponent : Int := 971

/-- `num / den * 2 ^ (-shift)` as a quotient of natural numbers. -/
def scaled (num den : Nat) (shift : Int) : Nat × Nat :=
  match shift with
  | .ofNat s => (num, den * Nat.pow 2 s)
  | .negSucc s => (num * Nat.pow 2 (s + 1), den)

/-- The greatest `e` with `2 ^ e ≤ num / den`, for a positive quotient. -/
def floorLog2 (num den : Nat) : Int :=
  let guess : Int := (Nat.log2 num : Int) - (Nat.log2 den : Int)
  let (n, d) := scaled num den guess
  if d ≤ n then guess else guess - 1

/-- The quotient rounded to a natural number, a tie going to the even neighbour. -/
def roundDiv (num den : Nat) : Nat :=
  let quotient := num / den
  let rest := num % den
  if 2 * rest < den then quotient
  else if den < 2 * rest then quotient + 1
  else if quotient % 2 = 0 then quotient else quotient + 1

/-- The binary64 value nearest to `num / den`, with the given sign. -/
def ofRatio (negative : Bool) (num den : Nat) : Binary64 :=
  if num = 0 then .finite negative 0 0
  else
    let exponent := max minExponent (floorLog2 num den - 52)
    let (n, d) := scaled num den exponent
    let rounded := roundDiv n d
    let (significand, exponent) :=
      if rounded = Nat.pow 2 53 then (Nat.pow 2 52, exponent + 1) else (rounded, exponent)
    if maxExponent < exponent then .infinite negative else .finite negative significand exponent

/-- The value nearest to `digits * 10 ^ power`. -/
def ofDecimal (negative : Bool) (digits : Nat) (power : Int) : Binary64 :=
  if digits = 0 then .finite negative 0 0
  else if 400 < power then .infinite negative
  else if power < -(400 + (Nat.log2 digits : Int)) then .finite negative 0 0
  else
    match power with
    | .ofNat p => ofRatio negative (digits * Nat.pow 10 p) 1
    | .negSucc p => ofRatio negative digits (Nat.pow 10 (p + 1))

/-- The value nearest to a natural number. -/
def ofNat (n : Nat) : Binary64 := ofRatio false n 1

/-- The magnitude of a finite value as a quotient. -/
def ratio (significand : Nat) (exponent : Int) : Nat × Nat :=
  match exponent with
  | .ofNat e => (significand * Nat.pow 2 e, 1)
  | .negSucc e => (significand, Nat.pow 2 (e + 1))

/-- Whether the value is an infinity. -/
def isInfinite : Binary64 → Bool
  | .infinite _ => true
  | _ => false

/-- Whether the value is a zero of either sign. -/
def isZero : Binary64 → Bool
  | .finite _ 0 _ => true
  | _ => false

/-- The value with the opposite sign. -/
def neg : Binary64 → Binary64
  | .finite n m e => .finite (!n) m e
  | .infinite n => .infinite (!n)
  | .nan => .nan


/-- A finite value divided by the binary64 value `10 ^ power`, rounded once. Powers of ten beyond
the twenty-second are themselves rounded before they divide. -/
def overPowerOfTen (x : Binary64) (power : Nat) : Binary64 :=
  match x, ofNat (Nat.pow 10 power) with
  | .finite n m e, .finite _ m' e' =>
      let (num, den) := ratio m e
      let (num', den') := ratio m' e'
      ofRatio n (num * den') (den * num')
  | other, _ => other

/-- A finite value times the binary64 value `10 ^ power`, rounded once. -/
def scaleByTen (x : Binary64) (power : Nat) : Binary64 :=
  match x, ofNat (Nat.pow 10 power) with
  | .finite n m e, .finite _ m' e' =>
      let (num, den) := ratio m e
      let (num', den') := ratio m' e'
      ofRatio n (num * num') (den * den')
  | other, _ => other

end Binary64

end GaleraProxy
