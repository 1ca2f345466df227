/-!
# Addresses as text

The text forms of IPv4 and IPv6 addresses and of socket addresses. A reader takes an address off the
front of a list of characters and returns what follows it; `Ipv4.parse?`, `Ipv6.parse?` and
`SocketAddress.parse?` want nothing to follow. `Ipv4.text`, `Ipv6.text` and `SocketAddress.text`
write the usual form, in which the longest stretch of zero groups shrinks to a double colon.
-/

namespace GaleraProxy

/-- An IPv4 address, by its four octets. -/
structure Ipv4 where
  a : UInt8
  b : UInt8
  c : UInt8
  d : UInt8
  deriving DecidableEq, Repr

/-- An IPv6 address, by its eight groups. -/
structure Ipv6 where
  groups : List UInt16
  deriving DecidableEq, Repr

/-- An address and a port. -/
inductive SocketAddress where
  | v4 (address : Ipv4) (port : UInt16)
  | v6 (address : Ipv6) (scope : UInt32) (port : UInt16)
  deriving DecidableEq, Repr

namespace Address

/-- The value of a digit in a radix of at most sixteen. -/
def digit? (radix : Nat) (c : Char) : Option Nat :=
  let value? :=
    if '0' ≤ c ∧ c ≤ '9' then some (c.toNat - '0'.toNat)
    else if 'a' ≤ c ∧ c ≤ 'f' then some (c.toNat - 'a'.toNat + 10)
    else if 'A' ≤ c ∧ c ≤ 'F' then some (c.toNat - 'A'.toNat + 10)
    else none
  value?.filter (· < radix)

/-- The longest stretch of digits at the front, with its value and length, and what follows. -/
def digits (radix value length : Nat) : List Char → Nat × Nat × List Char
  | [] => (value, length, [])
  | c :: rest =>
      match digit? radix c with
      | some d => digits radix (value * radix + d) (length + 1) rest
      | none => (value, length, c :: rest)

/-- Read a number below `bound` with at most `width` digits, where a width is given. -/
def readNumber (radix : Nat) (width : Option Nat) (leadingZero : Bool) (bound : Nat)
    (text : List Char) : Option (Nat × List Char) :=
  let (value, length, rest) := digits radix 0 0 text
  let tooWide := width.any fun w => w < length
  if length = 0 ∨ tooWide ∨ bound ≤ value then none
  else if ¬ leadingZero ∧ 1 < length ∧ text.head? = some '0' then none
  else some (value, rest)

/-- Read a given character. -/
def readChar (c : Char) : List Char → Option (List Char)
  | d :: rest => if c = d then some rest else none
  | [] => none

/-- Read an octet of an IPv4 address. -/
def readOctet (text : List Char) : Option (UInt8 × List Char) :=
  (readNumber 10 (some 3) false 256 text).map fun (n, rest) => (UInt8.ofNat n, rest)

/-- Read an IPv4 address. -/
def readIpv4 (text : List Char) : Option (Ipv4 × List Char) := do
  let (a, text) ← readOctet text
  let (b, text) ← readOctet (← readChar '.' text)
  let (c, text) ← readOctet (← readChar '.' text)
  let (d, text) ← readOctet (← readChar '.' text)
  pure (⟨a, b, c, d⟩, text)

/-- The two groups that an embedded IPv4 address fills. -/
def Ipv4.groups (v4 : Ipv4) : List UInt16 :=
  [v4.a.toUInt16 * 256 + v4.b.toUInt16, v4.c.toUInt16 * 256 + v4.d.toUInt16]

/-- Read at most `room` groups of an IPv6 address, the last two of which may be an IPv4 address. The
result tells whether one was. -/
def readGroups (first : Bool) : Nat → List Char → List UInt16 × Bool × List Char
  | 0, text => ([], false, text)
  | room + 1, text =>
      let separated := if first then some text else readChar ':' text
      let v4 := if room = 0 then none else separated.bind readIpv4
      match v4 with
      | some (v4, rest) => (Ipv4.groups v4, true, rest)
      | none =>
          match separated.bind (readNumber 16 (some 4) true 65536) with
          | none => ([], false, text)
          | some (g, rest) =>
              let (groups, embedded, rest) := readGroups false room rest
              (UInt16.ofNat g :: groups, embedded, rest)

/-- Read an IPv6 address. A double colon stands for at least one group of zeros. -/
def readIpv6 (text : List Char) : Option (Ipv6 × List Char) :=
  let (front, embedded, rest) := readGroups true 8 text
  if front.length = 8 then some (⟨front⟩, rest)
  else if embedded then none
  else do
    let rest ← readChar ':' (← readChar ':' rest)
    let (back, _, rest) := readGroups true (7 - front.length) rest
    let zeros := List.replicate (8 - front.length - back.length) 0
    pure (⟨front ++ zeros ++ back⟩, rest)

/-- A reader whose address must be all there is. -/
def complete {α : Type} (read : List Char → Option (α × List Char)) (text : String) : Option α :=
  match read text.toList with
  | some (a, []) => some a
  | _ => none

/-- Read a port after its colon. -/
def readPort (text : List Char) : Option (UInt16 × List Char) := do
  let (n, rest) ← readNumber 10 none true 65536 (← readChar ':' text)
  pure (UInt16.ofNat n, rest)

/-- Read the scope of an IPv6 address, which is zero where none is written. -/
def readScope (text : List Char) : Option (UInt32 × List Char) :=
  match readChar '%' text with
  | none => some (0, text)
  | some text => do
      let (n, rest) ← readNumber 10 none true UInt32.size text
      pure (UInt32.ofNat n, rest)

/-- Read a socket address with an IPv4 address. -/
def readSocketV4 (text : List Char) : Option (SocketAddress × List Char) := do
  let (address, text) ← readIpv4 text
  let (port, text) ← readPort text
  pure (.v4 address port, text)

/-- Read a socket address with an IPv6 address in brackets. -/
def readSocketV6 (text : List Char) : Option (SocketAddress × List Char) := do
  let (address, text) ← readIpv6 (← readChar '[' text)
  let (scope, text) ← readScope text
  let (port, text) ← readPort (← readChar ']' text)
  pure (.v6 address scope port, text)

end Address

/-- The address that a text denotes, if it denotes one. -/
def Ipv4.parse? (text : String) : Option Ipv4 := Address.complete Address.readIpv4 text

/-- The address that a text denotes, if it denotes one. -/
def Ipv6.parse? (text : String) : Option Ipv6 := Address.complete Address.readIpv6 text

/-- The socket address that a text denotes, if it denotes one. -/
def SocketAddress.parse? (text : String) : Option SocketAddress :=
  (Address.complete Address.readSocketV4 text).or (Address.complete Address.readSocketV6 text)

/-- The port of a socket address. -/
def SocketAddress.port : SocketAddress → UInt16
  | .v4 _ port | .v6 _ _ port => port

/-- The written form of an IPv4 address. -/
def Ipv4.text (v4 : Ipv4) : String :=
  ".".intercalate ([v4.a, v4.b, v4.c, v4.d].map fun octet => toString octet.toNat)

/-- The written form of groups between colons. -/
def Ipv6.groupsText (groups : List UInt16) : String :=
  ":".intercalate (groups.map fun g => String.ofList (Nat.toDigits 16 g.toNat))

/-- The number of zeros at the front of groups. -/
def Ipv6.zerosAhead (groups : List UInt16) : Nat := (groups.takeWhile (· == 0)).length

/-- The first of the longest stretches of zero groups: where it begins and how long it is. -/
def Ipv6.longestZeros (v6 : Ipv6) : Nat × Nat :=
  (List.range v6.groups.length).foldl
    (fun best start =>
      let length := zerosAhead (v6.groups.drop start)
      if best.2 < length then (start, length) else best)
    (0, 0)

/-- The written form of an IPv6 address. An address that stands for an IPv4 address shows it. -/
def Ipv6.text (v6 : Ipv6) : String :=
  match v6.groups with
  | [0, 0, 0, 0, 0, 0xFFFF, high, low] =>
      "::ffff:" ++ Ipv4.text
        ⟨(high >>> 8).toUInt8, high.toUInt8, (low >>> 8).toUInt8, low.toUInt8⟩
  | groups =>
      let (start, length) := v6.longestZeros
      if length ≤ 1 then groupsText groups
      else groupsText (groups.take start) ++ "::" ++ groupsText (groups.drop (start + length))

/-- The written form of a socket address. -/
def SocketAddress.text : SocketAddress → String
  | .v4 address port => address.text ++ ":" ++ toString port.toNat
  | .v6 address scope port =>
      let zone := if scope = 0 then "" else "%" ++ toString scope.toNat
      "[" ++ address.text ++ zone ++ "]:" ++ toString port.toNat

end GaleraProxy
