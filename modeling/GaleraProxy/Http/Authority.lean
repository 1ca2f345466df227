import GaleraProxy.Host.Address
import GaleraProxy.Http.Uri

/-!
# The server that a URI names

The authority of a URI may have a user in front of the host, and a port behind it. A host in
brackets ends with the closing bracket, and any other one before the first colon. The port is what
follows the last colon, if it is a number of 16 bits.
-/

namespace GaleraProxy.Http.Uri

/-- What follows the last place of a character, or all of a text without it. -/
def afterLast (c : Char) (text : List Char) : List Char := (text.reverse.takeWhile (· ≠ c)).reverse

/-- The host of an authority. -/
def hostOf (authority : List Char) : List Char :=
  match afterLast '@' authority with
  | '[' :: rest => '[' :: (rest.takeWhile (· ≠ ']') ++ (rest.dropWhile (· ≠ ']')).take 1)
  | rest => rest.takeWhile (· ≠ ':')

/-- The port that a text is the number of. A plus sign may stand in front of it. -/
def portOfText? (text : List Char) : Option UInt16 :=
  let digits := match text with
    | '+' :: rest => rest
    | rest => rest
  match Address.readNumber 10 none true 65536 digits with
  | some (n, []) => some (UInt16.ofNat n)
  | _ => none

/-- The port of an authority. -/
def portOf? (authority : List Char) : Option UInt16 :=
  if authority.contains ':' then portOfText? (afterLast ':' authority) else none

/-- The host of a URI. -/
def host (u : Uri) : String := String.ofList (hostOf u.authority.toList)

/-- The port of a URI. -/
def port? (u : Uri) : Option UInt16 := portOf? u.authority.toList

end GaleraProxy.Http.Uri
