import GaleraProxy.Text.Base64
import GaleraProxy.Text.Quoted
import GaleraProxy.Text.Utf8

/-!
# Credentials of the administration API

A request shows a user name and a password in its `Authorization` header, joined by a colon and
encoded in base64. `Credentials.admits` tells whether a header shows the configured ones.
-/

namespace GaleraProxy

/-- The configured user name and password. -/
structure Credentials where
  username : String
  password : String
  deriving DecidableEq, Repr

namespace Credentials

/-- The text by which credentials are described, without the password. -/
def describe (c : Credentials) : String :=
  "Credentials \x7b username: " ++ Text.quoted c.username ++ ", password: "
    ++ Text.quoted "<redacted>" ++ " \x7d"

/-- A header's value as text: only visible ASCII characters, blanks and tabs are text. -/
def headerText? (value : List UInt8) : Option (List Char) :=
  if value.all fun b => b == 0x09 || (0x20 ≤ b && b < 0x7F) then
    some (value.map fun b => Char.ofNat b.toNat)
  else none

/-- What follows the name of the scheme, without blanks around it. -/
def afterScheme? (text : List Char) : Option (List Char) :=
  let scheme := "Basic ".toList
  if scheme.isPrefixOf text then
    let isBlank (c : Char) : Bool := c == ' ' || c == '\t'
    let rest := (text.drop scheme.length).dropWhile isBlank
    some (rest.reverse.dropWhile isBlank).reverse
  else none

/-- The text before the first colon and the text after it. -/
def splitColon? : List Char → Option (List Char × List Char)
  | [] => none
  | ':' :: rest => some ([], rest)
  | c :: rest => (splitColon? rest).map fun (before, after) => (c :: before, after)

/-- The user name and the password that a header's value shows. -/
def shown? (value : List UInt8) : Option Credentials := do
  let text ← headerText? value
  let encoded ← afterScheme? text
  let bytes ← Base64.decodeLoose? (encoded.map fun c => UInt8.ofNat c.toNat)
  let decoded ← Utf8.decode? bytes
  let (username, password) ← splitColon? decoded.toList
  pure ⟨String.ofList username, String.ofList password⟩

/-- Whether a header's value shows these credentials. -/
def admits (c : Credentials) (value : List UInt8) : Bool := shown? value == some c

end Credentials

end GaleraProxy
