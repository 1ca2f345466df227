import GaleraProxy.Document.Node
import GaleraProxy.Number.Decimal
import GaleraProxy.Yaml.Token

/-!
# What YAML scalars stand for

A plain scalar stands for a null, a truth value or a number if it is written like one, and else for
its own text. `implicit` decides by the text alone; a tag may ask for a type of its own.
-/

namespace GaleraProxy.Yaml

open Document (Scalar)

/-- The truth value that a text names. -/
def flagOfText? : String → Option Bool
  | "true" | "True" | "TRUE" => some true
  | "false" | "False" | "FALSE" => some false
  | _ => none

/-- Whether a text names the null. -/
def isNullName : String → Bool
  | "null" | "Null" | "NULL" | "~" => true
  | _ => false

/-- The base that a number's mark asks for, and the digits after the mark. -/
def baseOf : List Char → Nat × List Char
  | '0' :: 'x' :: digits => (16, digits)
  | '0' :: 'o' :: digits => (8, digits)
  | '0' :: 'b' :: digits => (2, digits)
  | digits => (10, digits)

/-- Whether digits begin with a zero that does not stand alone: such a text is no number. -/
def hasLeadingZero : List Char → Bool
  | '0' :: c :: rest => (c :: rest).all Char.isDigit
  | _ => false

/-- The natural number that a text without a sign stands for. -/
def naturalOf? (text : List Char) : Option Nat :=
  if hasLeadingZero text then none
  else
    let (base, digits) := baseOf text
    naturalOfText? base digits

/-- The whole number that a text stands for. Its magnitude fits into 128 bits. -/
def integerOf? (text : List Char) : Option Int :=
  match text with
  | '-' :: rest => (naturalOf? rest).bind fun n =>
      if n ≤ Nat.pow 2 127 then some (-(n : Int)) else none
  | '+' :: rest | rest =>
      (naturalOf? rest).bind fun n => if n < Nat.pow 2 128 then some (n : Int) else none

/-- The real number that a text stands for. -/
def realOf? (text : List Char) : Option Binary64 :=
  let (signed, unsigned) := match text with
    | '+' :: rest => (true, rest)
    | rest => (false, rest)
  match String.ofList unsigned with
  | ".inf" | ".Inf" | ".INF" => some (.infinite false)
  | "-.inf" | "-.Inf" | "-.INF" => if signed then none else some (.infinite true)
  | ".nan" | ".NaN" | ".NAN" => if signed then none else some .nan
  | _ =>
      match unsigned with
      | '+' :: _ => none
      | '-' :: _ => if signed then none else finite? unsigned
      | _ => finite? unsigned
where
  /-- A decimal within the range of the format. -/
  finite? (text : List Char) : Option Binary64 :=
    (Binary64.ofText? text).filter fun x => !x.isInfinite

/-- The value of a plain scalar without a tag. -/
def implicit (text : String) : Scalar :=
  let chars := text.toList
  if text.isEmpty || isNullName text then .null
  else
    match flagOfText? text with
    | some b => .bool b
    | none =>
        match integerOf? chars with
        | some n => .int n
        | none =>
            if hasLeadingZero (Binary64.splitSign chars).2 then .text text
            else
              match realOf? chars with
              | some x => .real x
              | none => .text text

/-- The types of the core schema. -/
inductive CoreType where
  | null
  | bool
  | int
  | float
  deriving DecidableEq, Repr

/-- The type of the core schema that a tag names. -/
def coreType? : String → Option CoreType
  | "tag:yaml.org,2002:null" => some .null
  | "tag:yaml.org,2002:bool" => some .bool
  | "tag:yaml.org,2002:int" => some .int
  | "tag:yaml.org,2002:float" => some .float
  | _ => none

/-- The words for a type of the core schema. -/
def CoreType.message : CoreType → String
  | .null => "null"
  | .bool => "a boolean"
  | .int => "an integer"
  | .float => "a float"

/-- The value of a text as one of a core type. -/
def CoreType.read? (text : String) : CoreType → Option Scalar
  | .null => if isNullName text then some .null else none
  | .bool => (flagOfText? text).map .bool
  | .int => (integerOf? text.toList).map .int
  | .float => (realOf? text.toList).map .real

/-- What a scalar with a tag is read as: a plain one as without the tag, except that it is no null
unless the tag says so, and a literal one as its tag says if that is a truth value or a number. -/
def taggedReading (text : String) (style : Style) (type : Option CoreType) : Scalar :=
  match style, type with
  | .plain, _ =>
      if type != some .null && implicit text == .null then .text text else implicit text
  | .literal, some .bool => (CoreType.bool.read? text).getD (.text text)
  | .literal, some .int => (CoreType.int.read? text).getD (.text text)
  | _, _ => .text text

/-- The value of a scalar. -/
def scalarValue (tag : Option String) (text : String) (style : Style) : Scalar :=
  match tag, style with
  | none, .plain =>
      if text = "-0" then .typed text (.text text) (.int 0) none else .unquoted text (implicit text)
  | none, _ => .text text
  | some tag, _ =>
      let type := coreType? tag
      let reading := taggedReading text style type
      match type with
      | some type =>
          match type.read? text with
          | some shown => .typed text reading shown none
          | none => .typed text reading (.text text) (some type.message)
      | none =>
          let shown := if tag.startsWith "!" && style == .plain then implicit text else .text text
          .typed text reading shown none

end GaleraProxy.Yaml
