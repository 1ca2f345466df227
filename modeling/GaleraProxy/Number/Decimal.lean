import GaleraProxy.Number.Binary64

/-!
# Reading decimals and whole numbers

`Binary64.ofText?` reads a decimal in the usual form: a sign, digits with at most one point among
them, and an exponent. `naturalOfText?` reads digits of a base up to sixteen.
-/

namespace GaleraProxy

/-- The value of a digit in bases up to sixteen. -/
def digitValue? (c : Char) : Option Nat :=
  if '0' ≤ c ∧ c ≤ '9' then some (c.toNat - '0'.toNat)
  else if 'a' ≤ c ∧ c ≤ 'f' then some (c.toNat - 'a'.toNat + 10)
  else if 'A' ≤ c ∧ c ≤ 'F' then some (c.toNat - 'A'.toNat + 10)
  else none

/-- The number that continues `value` with the given digits, if all of them are digits of the base.
-/
def extendNatural? (base : Nat) : Nat → List Char → Option Nat
  | value, [] => some value
  | value, c :: rest =>
      match digitValue? c with
      | some d => if d < base then extendNatural? base (value * base + d) rest else none
      | none => none

/-- The number that a text of digits stands for; at least one digit is needed. -/
def naturalOfText? (base : Nat) (text : List Char) : Option Nat :=
  if text.isEmpty then none else extendNatural? base 0 text

namespace Binary64

/-- The sign in front of a number and what follows it. -/
def splitSign : List Char → Bool × List Char
  | '-' :: rest => (true, rest)
  | '+' :: rest => (false, rest)
  | rest => (false, rest)

/-- The value of an exponent, which nothing follows. -/
def exponentOfText? (text : List Char) : Option Int :=
  let (negative, digits) := splitSign text
  (naturalOfText? 10 digits).map fun n => if negative then -(n : Int) else n

/-- The number nearest to a decimal. -/
def ofText? (text : List Char) : Option Binary64 := do
  let (negative, unsigned) := splitSign text
  let whole := unsigned.takeWhile Char.isDigit
  let rest := unsigned.dropWhile Char.isDigit
  let (fraction, rest) := match rest with
    | '.' :: rest => (rest.takeWhile Char.isDigit, rest.dropWhile Char.isDigit)
    | rest => ([], rest)
  let digits ← naturalOfText? 10 (whole ++ fraction)
  let exponent ← match rest with
    | [] => some 0
    | 'e' :: rest | 'E' :: rest => exponentOfText? rest
    | _ => none
  pure (ofDecimal negative digits (exponent - fraction.length))

end Binary64

end GaleraProxy
