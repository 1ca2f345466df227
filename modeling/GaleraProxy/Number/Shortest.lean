import GaleraProxy.Number.Binary64

/-!
# The shortest decimal text of a binary64 number

`shortest` finds the fewest decimal digits that read back as the same value, and the nearest such
decimal where several have that many digits. `Binary64.positional` and `Binary64.compact` lay the
digits out: the first never uses an exponent, the second uses one outside a middle range.
-/

namespace GaleraProxy.Binary64

/-- The decimals that round to a finite value, in quarters of its last place: the value itself and
the two ends of its rounding interval. The interval is narrower below a power of two. -/
structure Neighbourhood where
  low : Nat
  value : Nat
  high : Nat
  closed : Bool
  num : Nat
  den : Nat

/-- The neighbourhood of `significand * 2 ^ exponent`. -/
def neighbourhood (significand : Nat) (exponent : Int) : Neighbourhood :=
  let (num, den) := ratio 1 (exponent - 2)
  let low :=
    if significand = Nat.pow 2 52 ∧ minExponent < exponent then 4 * significand - 1
    else 4 * significand - 2
  { low := low, value := 4 * significand, high := 4 * significand + 2
    closed := significand % 2 = 0, num := num, den := den }

/-- `10 ^ power` as a quotient. -/
def tenPower (power : Int) : Nat × Nat :=
  match power with
  | .ofNat p => (Nat.pow 10 p, 1)
  | .negSucc p => (1, Nat.pow 10 (p + 1))

/-- The greatest `k` with `10 ^ k ≤ num / den`, tried upwards from `start`. -/
def floorLog10 (num den : Nat) : Nat → Int → Int
  | 0, k => k
  | fuel + 1, k =>
      let (n, d) := tenPower (k + 1)
      if n * den ≤ num * d then floorLog10 num den fuel (k + 1) else k

/-- The decimal of the grid `10 ^ power` that reads back and lies nearest, if there is one. -/
def Neighbourhood.onGrid? (here : Neighbourhood) (power : Int) : Option Nat :=
  let (n, d) := tenPower power
  -- one unit of the grid is `n / d`, one quarter of the last place is `num / den`
  let quarter := here.num * d
  let unit := n * here.den
  let below := here.value * quarter / unit
  let inside (c : Nat) : Bool :=
    if here.closed then here.low * quarter ≤ c * unit ∧ c * unit ≤ here.high * quarter
    else here.low * quarter < c * unit ∧ c * unit < here.high * quarter
  let above := below + 1
  match inside below, inside above with
  | true, true =>
      let down := here.value * quarter - below * unit
      let up := above * unit - here.value * quarter
      if down < up then some below
      else if up < down then some above
      else if below % 2 = 0 then some below else some above
  | true, false => some below
  | false, true => some above
  | false, false => none

/-- Search the grids from coarse to fine, one more digit at a time. -/
def Neighbourhood.search (here : Neighbourhood) (top : Int) : Nat → Nat → Nat × Int
  | 0, _ => (here.value, 0)
  | fuel + 1, digits =>
      let power := top - (digits : Int)
      match here.onGrid? power with
      | some c => if c = 0 then here.search top fuel (digits + 1) else (c, power)
      | none => here.search top fuel (digits + 1)

/-- Drop the zeros at the end of a decimal. -/
def trimZeros : Nat → Nat × Int → Nat × Int
  | 0, decimal => decimal
  | fuel + 1, (c, power) =>
      if c ≠ 0 ∧ c % 10 = 0 then trimZeros fuel (c / 10, power + 1) else (c, power)

/-- The fewest decimal digits that read back as `significand * 2 ^ exponent`, as digits and a power
of ten. -/
def shortest (significand : Nat) (exponent : Int) : Nat × Int :=
  if significand = 0 then (0, 0)
  else
    let (num, den) := ratio significand exponent
    let top := floorLog10 num den 700 (-330)
    trimZeros 20 ((neighbourhood significand exponent).search top 18 0)

/-- `n` zeros. -/
def zeros (n : Nat) : String := String.ofList (List.replicate n '0')

/-- Digits and a power of ten written without an exponent, and without a point where no digit
follows it. -/
def layOut (digits : Nat) (power : Int) : String :=
  let text := toString digits
  match power with
  | .ofNat p => if digits = 0 then text else text ++ zeros p
  | .negSucc p =>
      let places := p + 1
      if places < text.length then
        let whole := text.toList.take (text.length - places)
        let part := text.toList.drop (text.length - places)
        String.ofList whole ++ "." ++ String.ofList part
      else "0." ++ zeros (places - text.length) ++ text

/-- Append `.0` to a text without a point. -/
def withPoint (text : String) : String :=
  if text.toList.contains '.' then text else text ++ ".0"

/-- The value without an exponent, with a point always shown for a finite value. -/
def positional : Binary64 → String
  | .finite n m e =>
      let (digits, power) := shortest m e
      (if n then "-" else "") ++ withPoint (layOut digits power)
  | .infinite n => if n then "-inf" else "inf"
  | .nan => "NaN"

/-- The digits in scientific notation, with a signed exponent. -/
def scientific (digits : Nat) (power : Int) : String :=
  let text := (toString digits).toList
  let exponent := power + (text.length : Int) - 1
  let mantissa :=
    match text with
    | [] => ""
    | [d] => String.ofList [d]
    | d :: rest => String.ofList (d :: '.' :: rest)
  let sign := if exponent < 0 then "-" else "+"
  mantissa ++ "e" ++ sign ++ toString exponent.natAbs

/-- The value with an exponent where it is below `10 ^ (-5)` or at least `10 ^ 16`, and with a point
otherwise. -/
def compact : Binary64 → String
  | .finite n m e =>
      let (digits, power) := shortest m e
      let magnitude := power + ((toString digits).length : Int)
      let sign := if n then "-" else ""
      if digits = 0 ∨ (-5 < magnitude ∧ magnitude ≤ 16) then
        sign ++ withPoint (layOut digits power)
      else sign ++ scientific digits power
  | .infinite n => if n then "-inf" else "inf"
  | .nan => "NaN"

end GaleraProxy.Binary64
