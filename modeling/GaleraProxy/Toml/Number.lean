import GaleraProxy.Document.Node
import GaleraProxy.Number.Decimal

/-!
# Numbers and dates of TOML

Whole numbers have 64 bits and may be written in four bases; underscores may stand between digits.
Dates and times of day are recognised with their ranges, but their values are not kept.
-/

namespace GaleraProxy.Toml

open Document (Scalar)

/-- The digits that begin here, each underscore among them standing between two digits. The first
component is `none` if an underscore stands elsewhere. -/
def digitRun (isDigit : Char → Bool) : List Char → Option (List Char) × List Char
  | c :: '_' :: rest =>
      if isDigit c then
        match digitRun isDigit rest with
        | (some (d :: digits), rest) => (some (c :: d :: digits), rest)
        | (_, rest) => (none, rest)
      else (some [], c :: '_' :: rest)
  | c :: rest =>
      if isDigit c then
        let (digits, rest) := digitRun isDigit rest
        (digits.map (c :: ·), rest)
      else (some [], c :: rest)
  | [] => (some [], [])

/-- At least one digit. -/
def digits? (isDigit : Char → Bool) (rest : List Char) : Option (List Char × List Char) :=
  match digitRun isDigit rest with
  | (some (d :: digits), rest) => some (d :: digits, rest)
  | _ => none

/-- The digits of a decimal number, which begin with a zero only if that is all. -/
def decimalDigits? : List Char → Option (List Char × List Char)
  | '0' :: rest => some (['0'], rest)
  | rest => digits? Char.isDigit rest

/-- Digits of another base, as a number. -/
def basedNumber? (base : Nat) (rest : List Char) : Option (Int × List Char) := do
  let (digits, rest) ← digits? (fun c => (digitValue? c).any (· < base)) rest
  let n ← naturalOfText? base digits
  pure (n, rest)

/-- A whole number. -/
def integer? (text : List Char) : Option (Int × List Char) := do
  let (n, rest) ← match text with
    | '0' :: 'x' :: rest => basedNumber? 16 rest
    | '0' :: 'o' :: rest => basedNumber? 8 rest
    | '0' :: 'b' :: rest => basedNumber? 2 rest
    | _ => do
        let (negative, unsigned) := Binary64.splitSign text
        let (digits, rest) ← decimalDigits? unsigned
        let n ← naturalOfText? 10 digits
        pure (if negative then -(n : Int) else n, rest)
  if Int64.minValue.toInt ≤ n ∧ n ≤ Int64.maxValue.toInt then some (n, rest) else none

/-- The exponent of a real number. The result is `none` if a sign or an `e` has no digits. -/
def exponentPart? : List Char → Option (List Char × List Char)
  | c :: rest =>
      if c == 'e' || c == 'E' then
        let (sign, rest) := match rest with
          | '+' :: rest => (['+'], rest)
          | '-' :: rest => (['-'], rest)
          | rest => ([], rest)
        (digits? Char.isDigit rest).map fun (digits, rest) => ('e' :: sign ++ digits, rest)
      else some ([], c :: rest)
  | [] => some ([], [])

/-- A real number: a decimal with a fraction, an exponent or both, or one of the special values. -/
def real? (text : List Char) : Option (Binary64 × List Char) :=
  let (negative, unsigned) := Binary64.splitSign text
  match unsigned with
  | 'i' :: 'n' :: 'f' :: rest => some (.infinite negative, rest)
  | 'n' :: 'a' :: 'n' :: rest => some (.nan, rest)
  | _ => do
      let (whole, rest) ← decimalDigits? unsigned
      let (fraction, rest) ← match rest with
        | '.' :: rest => (digits? Char.isDigit rest).map fun (d, rest) => ('.' :: d, rest)
        | rest => some ([], rest)
      let (exponent, rest) ← exponentPart? rest
      if fraction.isEmpty && exponent.isEmpty then none
      else
        let x ← Binary64.ofText? ((if negative then ['-'] else []) ++ whole ++ fraction ++ exponent)
        if x = .infinite false then none else some (x, rest)

/-- A number of exactly `count` digits in a range. -/
def fixedNumber? (count low high : Nat) (rest : List Char) : Option (Nat × List Char) := do
  let digits := rest.take count
  if digits.length = count ∧ digits.all Char.isDigit then
    let n ← naturalOfText? 10 digits
    if low ≤ n ∧ n ≤ high then some (n, rest.drop count) else none
  else none

/-- Pass over an expected character. -/
def expect? (c : Char) : List Char → Option (List Char)
  | d :: rest => if c = d then some rest else none
  | [] => none

/-- The number of days of a month. -/
def daysOf (year month : Nat) : Nat :=
  let leap := year % 4 = 0 ∧ (year % 100 ≠ 0 ∨ year % 400 = 0)
  match month with
  | 2 => if leap then 29 else 28
  | 4 | 6 | 9 | 11 => 30
  | _ => 31

/-- Pass over a date. -/
def date? (rest : List Char) : Option (List Char) := do
  let (year, rest) ← fixedNumber? 4 0 9999 rest
  let (month, rest) ← fixedNumber? 2 1 12 (← expect? '-' rest)
  let (_, rest) ← fixedNumber? 2 1 (daysOf year month) (← expect? '-' rest)
  pure rest

/-- Pass over a time of day. -/
def time? (rest : List Char) : Option (List Char) := do
  let (_, rest) ← fixedNumber? 2 0 23 rest
  let (_, rest) ← fixedNumber? 2 0 59 (← expect? ':' rest)
  let (_, rest) ← fixedNumber? 2 0 60 (← expect? ':' rest)
  match rest with
  | '.' :: c :: after =>
      if c.isDigit then some (after.dropWhile Char.isDigit) else some rest
  | _ => some rest

/-- Pass over the offset of a time zone if there is one. -/
def zone? (rest : List Char) : Option (List Char) :=
  let offset? (rest : List Char) : Option (List Char) := do
    let (_, rest) ← fixedNumber? 2 0 23 rest
    let (_, rest) ← fixedNumber? 2 0 59 (← expect? ':' rest)
    pure rest
  match rest with
  | 'Z' :: rest | 'z' :: rest => some rest
  | '+' :: rest | '-' :: rest => offset? rest
  | rest => some rest

/-- Pass over a date, a time of day or both. -/
def dateTime? (rest : List Char) : Option (List Char) :=
  match date? rest with
  | none => time? rest
  | some after =>
      match after with
      | c :: later =>
          if c == 'T' || c == 't' || c == ' ' then
            match time? later with
            | some later => zone? later
            | none => some after
          else some after
      | [] => some []

/-- A number or a date. A date has no value of its own and is `none`. -/
def numeral? (rest : List Char) : Option (Option Scalar × List Char) :=
  match dateTime? rest with
  | some rest => some (none, rest)
  | none =>
      match real? rest with
      | some (x, rest) => some (some (.real x), rest)
      | none => (integer? rest).map fun (n, rest) => (some (.int n), rest)

end GaleraProxy.Toml
