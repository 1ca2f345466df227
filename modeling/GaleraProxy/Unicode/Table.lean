/-!
# Tables over the code points

A property of characters is a table of runs that cover the code points in ascending order. The text
of a table has one word per run: the number of code points in base 36, a capital letter for the
value they share, and for some letters base-36 operands separated by commas. `Table.ofText` reads
such a text and `Table.find?` looks a code point up by bisection.
-/

namespace GaleraProxy.Unicode

/-- Consecutive code points with one value. -/
structure Run where
  first : Nat
  last : Nat
  letter : Char
  operands : List Nat
  deriving Repr, DecidableEq, Inhabited

/-- Runs in ascending order. -/
structure Table where
  runs : Array Run

/-- The value of a base-36 digit. -/
def digit36? (c : Char) : Option Nat :=
  if '0' ≤ c ∧ c ≤ '9' then some (c.toNat - '0'.toNat)
  else if 'a' ≤ c ∧ c ≤ 'z' then some (c.toNat - 'a'.toNat + 10)
  else none

/-- What has been read of a table: the complete runs, latest first, and the run under way. -/
structure Table.Partial where
  runs : List Run
  next : Nat
  count : Nat
  letter : Option Char
  operands : List Nat
  operand : Nat

/-- Close the run under way, if there is one. -/
def Table.Partial.close (p : Table.Partial) (hasOperand : Bool) : Table.Partial :=
  match p.letter with
  | none => { p with count := 0, operand := 0 }
  | some letter =>
      let operands := if hasOperand then p.operand :: p.operands else p.operands
      let run : Run :=
        { first := p.next, last := p.next + p.count - 1, letter, operands := operands.reverse }
      { runs := run :: p.runs, next := p.next + p.count, count := 0, letter := none,
        operands := [], operand := 0 }

/-- Read one character of a table's text. -/
def Table.Partial.push (p : Table.Partial) (previous c : Char) : Table.Partial :=
  match digit36? c with
  | some d =>
      match p.letter with
      | none => { p with count := p.count * 36 + d }
      | some _ => { p with operand := p.operand * 36 + d }
  | none =>
      if c = ',' then { p with operands := p.operand :: p.operands, operand := 0 }
      else if c = ' ' ∨ c = '\n' then p.close (digit36? previous).isSome
      else { p with letter := some c, operands := [], operand := 0 }

/-- Read the rest of a table's text. -/
def Table.Partial.pushAll (p : Table.Partial) (previous : Char) : List Char → Table.Partial
  | [] => p.close (digit36? previous).isSome
  | c :: rest => (p.push previous c).pushAll c rest

/-- Read a table. -/
def Table.ofText (text : String) : Table :=
  let start : Table.Partial :=
    { runs := [], next := 0, count := 0, letter := none, operands := [], operand := 0 }
  ⟨(start.pushAll ' ' text.toList).runs.reverse.toArray⟩

/-- Look for the run of a code point among the runs from `low` to before `high`. -/
def Table.bisect (t : Table) (codePoint : Nat) : Nat → Nat → Nat → Option Run
  | 0, _, _ => none
  | fuel + 1, low, high =>
      if low < high then
        let middle := (low + high) / 2
        match t.runs[middle]? with
        | none => none
        | some run =>
            if codePoint < run.first then t.bisect codePoint fuel low middle
            else if run.last < codePoint then t.bisect codePoint fuel (middle + 1) high
            else some run
      else none

/-- The run that a character belongs to. -/
def Table.find? (t : Table) (c : Char) : Option Run :=
  t.bisect c.toNat 24 0 t.runs.size

/-- The letter of a character's run, or `N` outside the table. -/
def Table.letter (t : Table) (c : Char) : Char :=
  match t.find? c with
  | some run => run.letter
  | none => 'N'

end GaleraProxy.Unicode
