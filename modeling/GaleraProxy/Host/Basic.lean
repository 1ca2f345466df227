import GaleraProxy.Host.Address
import GaleraProxy.Host.DomainName
import GaleraProxy.Text.Percent
import GaleraProxy.Text.Utf8

/-!
# Hosts

A host is an address or a domain name. `Host.parse?` reads the host part of a URL: an IPv6 address
in brackets, an IPv4 address in any of the notations that URLs allow, or a domain name.
`Host.validate` also accepts the plain form of either kind of address.
-/

namespace GaleraProxy

/-- What a host name denotes. -/
inductive Host where
  | ipv4 (address : Nat)
  | ipv6 (address : Ipv6)
  | domain (labels : List (List Char))
  deriving Repr

namespace Host

/-- A part of an IPv4 address in octal, decimal or hexadecimal. -/
def ipv4Part? (part : List Char) : Option Nat :=
  let number (radix : Nat) (body : List Char) : Option Nat :=
    match Address.digits radix 0 0 body with
    | (value, _, []) => some value
    | _ => none
  match part with
  | [] => none
  | '0' :: 'x' :: body | '0' :: 'X' :: body => number 16 body
  | '0' :: c :: body => number 8 (c :: body)
  | body => number 10 body

/-- Whether the last label of a name, a final full stop aside, is written as a number, so that the
name as a whole must be an IPv4 address. -/
def endsInNumber (labels : List (List Char)) : Bool :=
  let isNumber (label : List Char) : Bool :=
    (!label.isEmpty && label.all fun c => (Address.digit? 10 c).isSome)
      || (ipv4Part? label).isSome
  match labels.reverse with
  | [] => false
  | [last] => isNumber last
  | [] :: label :: _ => isNumber label
  | last :: _ => isNumber last

/-- The parts of an IPv4 address: all but the last are octets and the last fills what is left. -/
def ipv4Value? : List Nat → Nat → Option Nat
  | [], _ => none
  | [last], room => if last < 256 ^ room then some last else none
  | part :: parts, room =>
      if part < 256 then (ipv4Value? parts (room - 1)).map (part * 256 ^ (room - 1) + ·) else none

/-- The IPv4 address that the labels of a name denote. -/
def ipv4OfLabels? (labels : List (List Char)) : Option Nat := do
  let parts := if labels.getLast? == some [] then labels.dropLast else labels
  if 4 < parts.length then none
  else
    let numbers ← parts.mapM ipv4Part?
    ipv4Value? numbers 4

/-- Read the host part of a URL. -/
def parse? (text : String) : Option Host := do
  match text.toList with
  | '[' :: rest =>
      if rest.getLast? = some ']' then
        (Ipv6.parse? (String.ofList rest.dropLast)).map .ipv6
      else none
  | _ =>
      let decoded ← Utf8.decode? (Percent.decode (Utf8.encode text))
      let labels ← DomainName.normalize? decoded.toList
      if labels = [[]] then none
      else if endsInNumber labels then (ipv4OfLabels? labels).map .ipv4
      else some (.domain labels)

/-- What is wrong with a host. -/
inductive Invalid where
  | empty
  | malformed (host : String)
  deriving Repr, DecidableEq

/-- The words for an invalid host. -/
def Invalid.message : Invalid → String
  | .empty => "host cannot be empty"
  | .malformed host => "'" ++ host ++ "' is not a valid host name or IP address"

/-- Whether a text is an IP address as it stands. -/
def isAddress (host : String) : Bool := (Ipv4.parse? host).isSome || (Ipv6.parse? host).isSome

/-- Check a host name or address. -/
def validate (host : String) : Except Invalid Unit :=
  if host.isEmpty then .error .empty
  else if isAddress host || (parse? host).isSome then .ok ()
  else .error (.malformed host)

end Host

end GaleraProxy
