import GaleraProxy.Document.Node

/-!
# Building up TOML tables

A table grows by the lines of a source: keys with dots and headers create the tables on their way.
What has been defined once cannot be defined again, so every operation may refuse. `Table.node` is
the finished tree.
-/

namespace GaleraProxy.Toml

open Document (Node Scalar)

/-- A node of a TOML document. A document that is not well formed has no tree at all. -/
abbrev TomlNode := Node Unit

/-- A part of a key and where it stands. -/
structure Key where
  name : String
  span : Span
  deriving DecidableEq, Repr

/-- How a table came about: by its own header or braces, on the way of a header, or on the way of a
key with dots. -/
inductive Origin where
  | own
  | header
  | dotted
  deriving DecidableEq, Repr

mutual

/-- What a key stands for. -/
inductive Item where
  | value (node : TomlNode)
  | table (table : Table)
  | tables (tables : List Table)

/-- A table under construction. A table that came about on the way of a key has no place of its own.
-/
inductive Table where
  | mk (origin : Origin) (span : Option Span) (entries : List (Key × Item))

end

namespace Table

/-- How the table came about. -/
def origin : Table → Origin
  | mk origin _ _ => origin

/-- The place of the table. -/
def span : Table → Option Span
  | mk _ span _ => span

/-- The entries in order. -/
def entries : Table → List (Key × Item)
  | mk _ _ entries => entries

/-- An empty table. -/
def empty (origin : Origin) (span : Option Span) : Table := mk origin span []

/-- The item of a key. -/
def get? (t : Table) (name : String) : Option Item :=
  (t.entries.find? fun e => e.1.name == name).map (·.2)

/-- Give a key an item, at its place if it is there already and else at the end. -/
def set (t : Table) (key : Key) (item : Item) : Table :=
  if (t.get? key.name).isSome then
    mk t.origin t.span (t.entries.map fun e => if e.1.name == key.name then (e.1, item) else e)
  else mk t.origin t.span (t.entries ++ [(key, item)])

/-- Take a key out. -/
def erase (t : Table) (name : String) : Table :=
  mk t.origin t.span (t.entries.filter fun e => e.1.name != name)

/-- Change the table at the end of a path, creating the tables on the way. A list of tables is
entered at its last one. The keys of a line lead only through tables that lines have created. -/
def modify (byLine : Bool) (f : Table → Option Table) : List Key → Table → Option Table
  | [], t => f t
  | key :: path, t =>
      match t.get? key.name with
      | none => do
          let child := empty (if byLine then .dotted else .header) none
          pure (t.set key (.table (← modify byLine f path child)))
      | some (.value _) => none
      | some (.table child) =>
          if byLine && child.origin == .own then none
          else do pure (t.set key (.table (← modify byLine f path child)))
      | some (.tables tables) =>
          match tables.getLast? with
          | none => none
          | some child => do
              pure (t.set key (.tables (tables.dropLast ++ [← modify byLine f path child])))

/-- Add the value of a line. -/
def addValue (t : Table) (path : List Key) (key : Key) (node : TomlNode) : Option Table :=
  let add (target : Table) : Option Table :=
    if (target.origin == .dotted) == path.isEmpty then none
    else if (target.get? key.name).isSome then none
    else some (target.set key (.value node))
  t.modify true add path

/-- The table that a header opens: new, or one that exists because of headers of its parts. The
first component is the document without it. -/
def openHeader (t : Table) (path : List Key) (key : Key) (span : Span) :
    Option (Table × Table) := do
  let parent ← t.modify false some path
  let found : Option Item := lookup path parent |>.bind (·.get? key.name)
  match found with
  | none => pure (parent, empty .own (some span))
  | some (.table (mk .header _ entries)) =>
      let without ← parent.modify false (fun p => some (p.erase key.name)) path
      pure (without, mk .own (some span) entries)
  | some _ => none
where
  /-- The table at the end of a path. -/
  lookup : List Key → Table → Option Table
    | [], t => some t
    | key :: path, t =>
        match t.get? key.name with
        | some (.table child) => lookup path child
        | some (.tables tables) => tables.getLast?.bind (lookup path)
        | _ => none

/-- Whether a header may add a further table to the list at its key. -/
def allowsListed (t : Table) (path : List Key) (key : Key) : Option Table :=
  let check (parent : Table) : Option Table :=
    match parent.get? key.name with
    | none | some (.tables _) => some parent
    | some _ => none
  t.modify false check path

/-- Put a finished table in its place. -/
def close (t : Table) (path : List Key) (key : Key) (listed : Bool) (table : Table) :
    Option Table :=
  let put (parent : Table) : Option Table :=
    match parent.get? key.name, listed with
    | none, true => some (parent.set key (.tables [table]))
    | some (.tables tables), true => some (parent.set key (.tables (tables ++ [table])))
    | none, false => some (parent.set key (.table table))
    | some _, _ => none
  t.modify false put path

end Table

/-- The place of a list of tables: from its first header to the end of its last one. -/
def tablesSpan (tables : List Table) (key : Key) : Span :=
  match tables.head?.bind (·.span), tables.getLast?.bind (·.span) with
  | some first, some last => ⟨first.start, last.stop⟩
  | _, _ => key.span

/-- The node of a key. -/
def Key.node (key : Key) : TomlNode := .scalar key.span (.text key.name)

mutual

/-- The finished tree of a table, which is at `place` if it has no place of its own. -/
def Table.node (place : Span) : Table → TomlNode
  | .mk _ span entries => .table (span.getD place) (entryNodes entries) none

/-- The finished trees of entries. -/
def entryNodes : List (Key × Item) → List (TomlNode × TomlNode)
  | [] => []
  | (key, item) :: entries => (key.node, item.node key) :: entryNodes entries

/-- The finished tree of a key's item. -/
def Item.node (key : Key) : Item → TomlNode
  | .value node => node
  | .table table => table.node key.span
  | .tables tables => .list (tablesSpan tables key) (tableNodes key.span tables) none

/-- The finished trees of listed tables. -/
def tableNodes (place : Span) : List Table → List TomlNode
  | [] => []
  | table :: tables => table.node place :: tableNodes place tables

end

end GaleraProxy.Toml
