import GaleraProxy.Host.Punycode
import GaleraProxy.Unicode.Classes
import GaleraProxy.Unicode.Composition
import GaleraProxy.Unicode.Mapping

/-!
# Domain names

A domain name is brought into its canonical form by mapping its characters, composing them and
decoding the labels that are written in Punycode. `DomainName.normalize?` returns the labels of a
name that may be looked up: no label begins with a mark, invisible joiners stand only where they
change the look of a script, labels keep one writing direction, and no character is reserved for
another part of a URL.
-/

namespace GaleraProxy.DomainName

/-- The characters that a domain name may not contain, whether written or mapped to. -/
def isForbidden (c : Char) : Bool :=
  c.toNat ≤ 0x20 || c.toNat == 0x7F || "#/:<>?@[\\]^|%".toList.contains c

/-- The lower-case form of a basic letter. -/
def lowerBasic (c : Char) : Char :=
  if 'A' ≤ c ∧ c ≤ 'Z' then Char.ofNat (c.toNat + 32) else c

/-- Whether a character is basic, that is, in ASCII. -/
def isBasic (c : Char) : Bool := c.toNat < 0x80

/-- What becomes of a character of a name. -/
def mapChar? (c : Char) : Option (List Char) :=
  if isBasic c then some [lowerBasic c] else Unicode.mapped? c

/-- The mapped and composed form of a text, unless a character is refused. -/
def mapText? (text : List Char) : Option (List Char) :=
  if text.all isBasic then some (text.map lowerBasic)
  else (text.mapM mapChar?).map fun parts => Unicode.composed parts.flatten

/-- Split at full stops. -/
def splitLabels (text : List Char) : List (List Char) :=
  let (last, labels) := text.foldr (fun c (label, labels) =>
    if c = '.' then ([], label :: labels) else (c :: label, labels)) ([], [])
  last :: labels

/-- Look back over transparent characters for one that joins to what follows. -/
def joinsBefore : List Char → Bool
  | [] => false
  | c :: rest =>
      match Unicode.joiningType c with
      | 'L' | 'D' => true
      | 'T' => joinsBefore rest
      | _ => false

/-- Look ahead over transparent characters for one that joins to what precedes. -/
def joinsAfter : List Char → Bool
  | [] => false
  | c :: rest =>
      match Unicode.joiningType c with
      | 'R' | 'D' => true
      | 'T' => joinsAfter rest
      | _ => false

/-- Whether a character suppresses the vowel of the one before it. -/
def isVirama (c : Char) : Bool := Unicode.combiningClass c == 9

/-- Whether each invisible joiner of a label stands where it has an effect. `before` is the part
already passed, in reverse. -/
def joinersFit (before : List Char) : List Char → Bool
  | [] => true
  | c :: rest =>
      let here :=
        if c.toNat = 0x200D then (before.head?.map isVirama).getD false
        else if c.toNat = 0x200C then
          (before.head?.map isVirama).getD false || (joinsBefore before && joinsAfter rest)
        else true
      here && joinersFit (c :: before) rest

/-- Whether a label may stand in any name, apart from its direction. -/
def labelFits (label : List Char) : Bool :=
  match label with
  | [] => true
  | first :: _ => !Unicode.isMark first && joinersFit [] label

/-- Whether a character is written right to left. -/
def isRightToLeft (c : Char) : Bool :=
  if isBasic c then false
  else match Unicode.direction c with
    | 'R' | 'A' | 'U' => true
    | _ => false

/-- The classes that may end a label, by the direction of its first character. -/
def mayEnd (leftToRight : Bool) (cls : Char) : Bool :=
  if leftToRight then cls == 'L' || cls == 'E'
  else cls == 'R' || cls == 'A' || cls == 'E' || cls == 'U'

/-- The classes that may stand inside a label, by the direction of its first character. -/
def mayStand (leftToRight : Bool) (cls : Char) : Bool :=
  let neutral := "ESCTOBM".toList.contains cls
  if leftToRight then cls == 'L' || neutral
  else cls == 'R' || cls == 'A' || cls == 'U' || neutral

/-- Whether a label keeps to one direction, as every label of a name with right-to-left text must.
-/
def directionFits (label : List Char) : Bool :=
  match label.map Unicode.direction with
  | [] => true
  | first :: tail =>
      let leftToRight := first == 'L'
      if !(leftToRight || first == 'R' || first == 'A') then false
      else
        let middle := (tail.reverse.dropWhile (· == 'M')).reverse
        match middle.getLast? with
        | none => true
        | some last =>
            let mixed := !leftToRight && middle.contains 'E' && middle.contains 'U'
            mayEnd leftToRight last && middle.dropLast.all (mayStand leftToRight) && !mixed

/-- Whether a label is written in Punycode. -/
def isEncoded (label : List Char) : Bool := label.take 4 == ['x', 'n', '-', '-']

/-- The longest encoded label that is looked into, without its first four characters. -/
def maxEncoded : Nat := 2000

/-- The longest label with other than basic characters. -/
def maxDecoded : Nat := 1000

/-- The text of an encoded label, which must be in mapped and composed form already and must need
its encoding. -/
def decodeLabel? (label : List Char) : Option (List Char) := do
  let body := label.drop 4
  if body.isEmpty || body.getLast? == some '-' || maxEncoded < body.length then none
  else
    let text ← Punycode.decode? body
    let mapped ← mapText? text
    if mapped == text && !text.contains '.' && !text.any isForbidden then some text else none

/-- A mapped label in its final form. -/
def finishLabel? (label : List Char) : Option (List Char) := do
  let text ← if isEncoded label then
      if label.all isBasic then decodeLabel? label else none
    else some label
  if labelFits text && (text.all isBasic || text.length ≤ maxDecoded) then some text else none

/-- The labels of a name in canonical form, or `none` if the name cannot be looked up. -/
def normalize? (name : List Char) : Option (List (List Char)) := do
  let mapped ← mapText? name
  if mapped.any isForbidden then none
  else
    let labels ← (splitLabels mapped).mapM finishLabel?
    let bidirectional := labels.any fun label => label.any isRightToLeft
    if bidirectional && !labels.all directionFits then none else some labels

end GaleraProxy.DomainName
