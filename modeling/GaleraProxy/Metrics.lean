/-!
# Session gauges

A gauge per backend name shows how many sessions are open. `Gauges.render` is the exposition that a
scraper reads.
-/

namespace GaleraProxy

/-- The latest number of sessions for each name that has been recorded, in the order of their first
record. -/
structure Gauges where
  entries : List (String × Nat)
  deriving DecidableEq, Repr

namespace Gauges

/-- Nothing recorded yet. -/
def empty : Gauges := ⟨[]⟩

/-- The recorded value of a name. -/
def get? (g : Gauges) (name : String) : Option Nat := g.entries.lookup name

/-- Record a value. -/
def record (g : Gauges) (name : String) (value : Nat) : Gauges :=
  if (g.get? name).isSome then
    ⟨g.entries.map fun e => if e.1 == name then (name, value) else e⟩
  else ⟨g.entries ++ [(name, value)]⟩

/-- A label's value in the exposition. A backslash is doubled unless it stands before a quote or
before another backslash, which it then already escapes. `held` tells that a backslash has been read
and not been written. -/
def labelChars : Bool → List Char → List Char
  | false, [] => []
  | true, [] => ['\\', '\\']
  | held, '\n' :: rest => '\\' :: 'n' :: labelChars held rest
  | _, '"' :: rest => '\\' :: '"' :: labelChars false rest
  | true, '\\' :: rest => '\\' :: '\\' :: labelChars false rest
  | false, '\\' :: rest => labelChars true rest
  | true, c :: rest => '\\' :: '\\' :: c :: labelChars false rest
  | false, c :: rest => c :: labelChars false rest

/-- The name of the gauge. -/
def gaugeName : String := "backend_sessions_total"

/-- The line of one gauge. -/
def line (e : String × Nat) : String :=
  gaugeName ++ "\x7bbackend=\"" ++ String.ofList (labelChars false e.1.toList) ++ "\"\x7d "
    ++ toString e.2

/-- The exposition's lines, none of them before anything is recorded. -/
def lines (g : Gauges) : List String :=
  if g.entries.isEmpty then []
  else ("# TYPE " ++ gaugeName ++ " gauge") :: g.entries.map line

end Gauges

end GaleraProxy
