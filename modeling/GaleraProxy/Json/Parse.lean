import GaleraProxy.Json.Document
import GaleraProxy.Json.Value

/-!
# Reading JSON values

`Json.parse?` reads a text that holds one value without fractions, as `Json.render` writes it, with
any blank space between its parts.
-/

namespace GaleraProxy.Json

open Document (Node Scalar)

/-- The value of a scalar. -/
def ofScalar? : Scalar → Option Json
  | .null => some .null
  | .bool b => some (.bool b)
  | .int n => some (.int n)
  | .real _ => none
  | .text s | .unquoted s _ | .typed s _ _ _ => some (.text s)

mutual

/-- The value of a complete document. -/
def ofNode? : JsonNode → Option Json
  | .scalar _ s => ofScalar? s
  | .list _ items none => (ofItems? items).map .list
  | .table _ entries none => (ofEntries? entries).map .object
  | _ => none

/-- The values of items. -/
def ofItems? : List JsonNode → Option (List Json)
  | [] => some []
  | item :: items => do
      let v ← ofNode? item
      let vs ← ofItems? items
      pure (v :: vs)

/-- The members of entries. -/
def ofEntries? : List (JsonNode × JsonNode) → Option (List (String × Json))
  | [] => some []
  | (.scalar _ (.text key), value) :: entries => do
      let v ← ofNode? value
      let rest ← ofEntries? entries
      pure ((key, v) :: rest)
  | _ => none

end

/-- The value that a text holds. -/
def parse? (text : List UInt8) : Option Json :=
  match document .whole text with
  | (node, some rest) => if rest.skipBlank.rest.isEmpty then ofNode? node else none
  | _ => none

end GaleraProxy.Json
