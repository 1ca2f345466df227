import GaleraProxy.Document.Node
import GaleraProxy.Number.Shortest
import GaleraProxy.Text.Quoted

/-!
# Faults of a document's shape

A document can be well written and still not be what its reader expects. A `Fault` says why, at
which node and on which path from the root. `Cause.message` is its wording; where it is located in
the source is up to each notation.
-/

namespace GaleraProxy.Document

/-- A step from a table or list to one of its parts. -/
inductive Step where
  | key (name : String)
  | index (i : Nat)
  deriving Repr, DecidableEq

/-- The steps from the root, the last one first. -/
abbrev Path := List Step

/-- What a reader hoped to find. -/
inductive Expected where
  | text
  | flag
  | word16
  | word64
  | sequence
  | key
  | record (name : String)
  | declared (type : String)
  deriving Repr, DecidableEq

/-- The kinds of values by which a reader names what it found instead. -/
inductive Found where
  | null
  | flag (value : Bool)
  | integer (value : Int)
  | real (value : Binary64)
  | text (value : String)
  | sequence
  | table
  deriving Repr, DecidableEq

/-- Why a node is refused. -/
inductive Cause where
  | wrongType (found : Found) (expected : Expected)
  | outOfRange (found : Found) (expected : Expected)
  | wrongLength (length : Nat) (name : String) (size : Nat)
  | missingField (name : String)
  | unknownField (name : String) (known : List String)
  | duplicateField (name : String)
  | surplusItems
  deriving Repr, DecidableEq

/-- Which end of a node a fault is seen at: its value as a whole, its opening, its complete text, or
the point after a key. -/
inductive Place where
  | value
  | opening
  | record
  | key
  | afterItem
  deriving Repr, DecidableEq

/-- A refusal: the cause, where it was seen, the node that it belongs to, and the path to the node
it is about. -/
structure Misfit where
  cause : Cause
  place : Place
  span : Span
  owner : Span
  path : Path
  deriving Repr

/-- A refusal of a node as such. -/
def Misfit.own (cause : Cause) (place : Place) (span : Span) (path : Path) : Misfit :=
  { cause, place, span, owner := span, path }

/-- What stops a reader: a break in the document or a node of the wrong shape. -/
inductive Fault (ε : Type) where
  | broken (error : ε)
  | misfit (misfit : Misfit)

/-- How a notation words what it found: the name of its null and the text of its numbers. -/
structure Wording where
  null : String
  real : Binary64 → String

/-- The words for what was hoped for. -/
def Expected.message : Expected → String
  | .text => "a string"
  | .flag => "a boolean"
  | .word16 => "u16"
  | .word64 => "u64"
  | .sequence => "a sequence"
  | .key => "field identifier"
  | .record name => "struct " ++ name
  | .declared type => type

/-- The words for a whole number; beyond 64 bits they name the width that holds it. -/
def integerMessage (n : Int) : String :=
  let text := "integer `" ++ toString n ++ "`"
  if n < Int64.minValue.toInt then text ++ " as i128"
  else if UInt64.size ≤ n then text ++ " as u128"
  else text

/-- The words for what was found. -/
def Found.message (w : Wording) : Found → String
  | .null => w.null
  | .flag true => "boolean `true`"
  | .flag false => "boolean `false`"
  | .integer n => integerMessage n
  | .real x => "floating point `" ++ w.real x ++ "`"
  | .text s => "string " ++ Text.quoted s
  | .sequence => "sequence"
  | .table => "map"

/-- Names between backticks: one alone, two joined by `or`, or a list. -/
def oneOf : List String → String
  | [] => "there are no fields"
  | [a] => "expected `" ++ a ++ "`"
  | [a, b] => "expected `" ++ a ++ "` or `" ++ b ++ "`"
  | names => "expected one of " ++ ", ".intercalate (names.map fun n => "`" ++ n ++ "`")

/-- The words for a cause. -/
def Cause.message (w : Wording) : Cause → String
  | .wrongType found expected =>
      "invalid type: " ++ found.message w ++ ", expected " ++ expected.message
  | .outOfRange found expected =>
      "invalid value: " ++ found.message w ++ ", expected " ++ expected.message
  | .wrongLength length name size =>
      "invalid length " ++ toString length ++ ", expected struct " ++ name ++ " with "
        ++ toString size ++ (if size = 1 then " element" else " elements")
  | .missingField name => "missing field `" ++ name ++ "`"
  | .unknownField name known => "unknown field `" ++ name ++ "`, " ++ oneOf known
  | .duplicateField name => "duplicate field `" ++ name ++ "`"
  | .surplusItems => "trailing characters"

end GaleraProxy.Document
