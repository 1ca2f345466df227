/-!
# JSON values and their compact text

`Json` is the value of an answer or of a written configuration. `Json.render` writes it without
spaces, object members in the order they are held; `Json.sorted` orders the members by key.
-/

namespace GaleraProxy

/-- A JSON value with whole numbers only. -/
inductive Json where
  | null
  | bool (value : Bool)
  | int (value : Int)
  | text (value : String)
  | list (items : List Json)
  | object (members : List (String × Json))
  deriving Repr, Inhabited

namespace Json

/-- A natural number. -/
def nat (n : Nat) : Json := .int n

/-- A text or null. -/
def ofText? : Option String → Json
  | some s => .text s
  | none => .null

/-- A natural number or null. -/
def ofNat? : Option Nat → Json
  | some n => .nat n
  | none => .null

/-- A hexadecimal digit. -/
def hexDigit (n : Nat) : Char :=
  if n < 10 then Char.ofNat (0x30 + n) else Char.ofNat (0x57 + n)

/-- A character as it stands in a JSON text: only the quote, the backslash and the controls are
escaped. -/
def escapeChar (c : Char) : List Char :=
  if c = '"' then ['\\', '"']
  else if c = '\\' then ['\\', '\\']
  else if c = '\x08' then ['\\', 'b']
  else if c = '\x0c' then ['\\', 'f']
  else if c = '\n' then ['\\', 'n']
  else if c = '\x0d' then ['\\', 'r']
  else if c = '\t' then ['\\', 't']
  else if c.toNat < 0x20 then
    ['\\', 'u', '0', '0', hexDigit (c.toNat / 16), hexDigit (c.toNat % 16)]
  else [c]

/-- A text between quotes. -/
def renderText (s : String) : List Char :=
  '"' :: (s.toList.flatMap escapeChar ++ ['"'])

mutual

/-- The characters of a value's compact text. -/
def chars : Json → List Char
  | .null => "null".toList
  | .bool true => "true".toList
  | .bool false => "false".toList
  | .int n => (toString n).toList
  | .text s => renderText s
  | .list [] => ['[', ']']
  | .list (item :: items) => '[' :: (chars item ++ itemChars items)
  | .object [] => ['\x7b', '\x7d']
  | .object ((key, value) :: members) =>
      '\x7b' :: (renderText key ++ ':' :: (chars value ++ memberChars members))

/-- The items after the first, with the closing bracket. -/
def itemChars : List Json → List Char
  | [] => [']']
  | item :: items => ',' :: (chars item ++ itemChars items)

/-- The members after the first, with the closing brace. -/
def memberChars : List (String × Json) → List Char
  | [] => ['\x7d']
  | (key, value) :: members =>
      ',' :: (renderText key ++ ':' :: (chars value ++ memberChars members))

end

/-- The compact text of a value. -/
def render (v : Json) : String := String.ofList (chars v)

mutual

/-- The value with the members of every object in ascending order of their keys. -/
def sorted : Json → Json
  | .list items => .list (sortedItems items)
  | .object members =>
      .object ((sortedMembers members).mergeSort fun a b => a.1 < b.1 || a.1 == b.1)
  | other => other

/-- `sorted` on each item. -/
def sortedItems : List Json → List Json
  | [] => []
  | item :: items => sorted item :: sortedItems items

/-- `sorted` on the value of each member. -/
def sortedMembers : List (String × Json) → List (String × Json)
  | [] => []
  | (key, value) :: members => (key, sorted value) :: sortedMembers members

end

/-- The value of an object's member. -/
def member? (v : Json) (key : String) : Option Json :=
  match v with
  | .object members => (members.find? fun m => m.1 == key).map (·.2)
  | _ => none

end Json

end GaleraProxy
