import GaleraProxy.Number.Binary64

/-!
# Document trees

A configuration document, in whatever notation it is written, is a tree of scalars, lists and tables
whose nodes know which stretch of the source they come from. Reading a document may break off: the
tree then holds what was read before the break, and the break itself as a leaf or as the rest of a
list or table. `ε` is what a notation says about a break.
-/

namespace GaleraProxy

/-- A stretch of the source, by the offsets of its first item and of the first one after it. -/
structure Span where
  start : Nat
  stop : Nat
  deriving DecidableEq, Repr

namespace Document

/-- A value without parts. An unquoted scalar of a notation with implicit types is its text together
with the value that the text stands for. A scalar with a type of its own is known by another value
where it is refused; `unmet` is the type that its text does not have. -/
inductive Scalar where
  | null
  | bool (value : Bool)
  | int (value : Int)
  | real (value : Binary64)
  | text (value : String)
  | unquoted (text : String) (reading : Scalar)
  | typed (text : String) (reading shown : Scalar) (unmet : Option String)
  deriving Repr, DecidableEq

/-- A node of a document. `skipped` stands for a value that nobody asked for. -/
inductive Node (ε : Type) where
  | scalar (span : Span) (value : Scalar)
  | list (span : Span) (items : List (Node ε)) (rest : Option ε)
  | table (span : Span) (entries : List (Node ε × Node ε)) (rest : Option ε)
  | skipped (span : Span)
  | broken (error : ε)

/-- The stretch a node comes from; a break has none. -/
def Node.span {ε : Type} : Node ε → Span
  | .scalar span _ | .list span _ _ | .table span _ _ | .skipped span => span
  | .broken _ => ⟨0, 0⟩

/-- Which parts of a document will be looked at. The entries of an object outside its plan are
skipped without being understood. -/
inductive Plan where
  | whole
  | members (known : List (String × Plan))

/-- The plan for an entry of a table, or `none` if the entry is skipped. -/
def Plan.entry? (plan : Plan) (key : String) : Option Plan :=
  match plan with
  | .whole => some .whole
  | .members known => (known.find? fun m => m.1 == key).map (·.2)

end Document

end GaleraProxy
