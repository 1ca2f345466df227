import GaleraProxy.Text.Utf8

/-!
# Uniform resource identifiers

A URI is a path with a query, an authority alone, an asterisk, or all of a scheme, an authority and
a path. `Uri.parse` accepts what an HTTP request may name: bytes beyond ASCII may stand in paths and
queries, and a fragment is dropped.
-/

namespace GaleraProxy.Http

/-- A URI in its parts. An absent path is empty; that of a URI with a scheme reads as a slash. -/
structure Uri where
  scheme : Option String
  authority : String
  path : String
  query : Option String
  deriving DecidableEq, Repr

namespace Uri

/-- Why a text is no URI. -/
inductive Invalid where
  | character
  | authority
  | format
  | tooLong
  | empty
  | schemeTooLong
  deriving DecidableEq, Repr

/-- The words for a text that is no URI. -/
def Invalid.message : Invalid → String
  | character => "invalid uri character"
  | authority => "invalid authority"
  | format => "invalid format"
  | tooLong => "uri too long"
  | empty => "empty string"
  | schemeTooLong => "scheme too long"

/-- A URI has at most this many bytes. -/
def maxLength : Nat := 65534

/-- A scheme has at most this many bytes. -/
def maxSchemeLength : Nat := 64

/-- Whether a character may stand in a scheme. -/
def isSchemeChar (c : Char) : Bool := c.isAlphanum || c == '+' || c == '-' || c == '.' || c == '~'

/-- Whether a character may stand in an authority. Percent signs are looked at apart. -/
def isAuthorityChar (c : Char) : Bool :=
  c.isAlphanum || "!$&'()*+,-.:;=@[]_~".toList.contains c

/-- Whether a character ends an authority. -/
def endsAuthority (c : Char) : Bool := c == '/' || c == '?' || c == '#'

/-- Whether a character may stand in a path. -/
def isPathChar (c : Char) : Bool :=
  let n := c.toNat
  n == 0x21 || (0x24 ≤ n && n ≤ 0x3B) || n == 0x3D || (0x40 ≤ n && n ≤ 0x5F)
    || (0x61 ≤ n && n ≤ 0x7A) || n == 0x7C || n == 0x7E || 0x7F ≤ n
    || c == '"' || c == '\x7b' || c == '\x7d'

/-- Whether a character may stand in a query. -/
def isQueryChar (c : Char) : Bool :=
  let n := c.toNat
  n == 0x21 || (0x24 ≤ n && n ≤ 0x3B) || n == 0x3D || 0x3F ≤ n

/-- A scheme with two slashes after it, and what follows. A text that does not begin so has no
scheme. -/
def splitScheme (text : List Char) : Except Invalid (Option (List Char) × List Char) :=
  let scheme := text.takeWhile isSchemeChar
  match text.dropWhile isSchemeChar with
  | ':' :: '/' :: '/' :: rest =>
      if text.length ≤ 3 then .ok (none, text)
      else if maxSchemeLength < scheme.length then .error .schemeTooLong
      else .ok (some scheme, rest)
  | _ => .ok (none, text)

/-- What has been seen of an authority: the colons since the last user name or bracket, the
brackets, and whether a percent sign stands outside of a user name. -/
structure AuthorityScan where
  colons : Nat
  opened : Bool
  closed : Bool
  percent : Bool
  endsWithUser : Bool

/-- Look at one more character of an authority. -/
def AuthorityScan.next (s : AuthorityScan) (c : Char) : Except Invalid AuthorityScan :=
  let s' := { s with endsWithUser := false }
  if c == '%' then .ok { s' with percent := true }
  else if !isAuthorityChar c then .error .character
  else
    match c with
    | ':' => if 8 ≤ s.colons then .error .authority else .ok { s' with colons := s.colons + 1 }
    | '[' => if s.percent || s.opened then .error .authority else .ok { s' with opened := true }
    | ']' =>
        if !s.opened || s.closed then .error .authority
        else .ok { s' with closed := true, colons := 0, percent := false }
    | '@' => .ok { s' with endsWithUser := true, colons := 0, percent := false }
    | _ => .ok s'

/-- An authority and what follows it. -/
def splitAuthority (text : List Char) : Except Invalid (List Char × List Char) := do
  let authority := text.takeWhile fun c => !endsAuthority c
  let s ← authority.foldlM AuthorityScan.next ⟨0, false, false, false, false⟩
  if s.opened != s.closed || 1 < s.colons || s.endsWithUser || s.percent then .error .authority
  else pure (authority, text.dropWhile fun c => !endsAuthority c)

/-- A path with its query. A fragment is dropped. -/
def splitPath (text : List Char) : Except Invalid (List Char × Option (List Char)) :=
  let path := text.takeWhile isPathChar
  match text.dropWhile isPathChar with
  | [] | '#' :: _ => .ok (path, none)
  | '?' :: rest =>
      let query := rest.takeWhile isQueryChar
      match rest.dropWhile isQueryChar with
      | [] | '#' :: _ => .ok (path, some query)
      | _ => .error .character
  | _ => .error .character

/-- A URI with a scheme or of an authority alone. -/
def parseFull (text : List Char) : Except Invalid Uri := do
  let (scheme, rest) ← splitScheme text
  match scheme with
  | none =>
      let (authority, rest) ← splitAuthority rest
      if rest.isEmpty then pure ⟨none, String.ofList authority, "", none⟩ else .error .format
  | some scheme =>
      if rest.isEmpty then .error .empty
      else
        let (authority, rest) ← splitAuthority rest
        if authority.isEmpty then .error .format
        else
          let (path, query) ← splitPath rest
          pure ⟨some (String.ofList scheme), String.ofList authority, String.ofList path,
            query.map String.ofList⟩

/-- Read a URI. -/
def parse (text : String) : Except Invalid Uri :=
  let chars := text.toList
  if maxLength < text.utf8ByteSize then .error .tooLong
  else
    match chars with
    | [] => .error .empty
    | ['*'] => .ok ⟨none, "", "*", none⟩
    | '/' :: _ => do
        let (path, query) ← splitPath chars
        pure ⟨none, "", String.ofList path, query.map String.ofList⟩
    | [c] =>
        if endsAuthority c then .error .character
        else do
          let (authority, _) ← splitAuthority chars
          pure ⟨none, String.ofList authority, "", none⟩
    | _ => parseFull chars

/-- The path that a request is routed by. -/
def routePath (u : Uri) : String := if u.path.isEmpty && u.scheme.isSome then "/" else u.path

end Uri

end GaleraProxy.Http
