import GaleraProxy.Number.Decimal

/-!
# Blanks, comments and texts of TOML

The functions take what is left of a source and return what they read with what is left after it.
Texts come in four forms: quoted with escapes or literal, each on one line or between triple quotes.
-/

namespace GaleraProxy.Toml

/-- Whether a character is a space or a tab. -/
def isBlank (c : Char) : Bool := c == ' ' || c == '\t'

/-- Whether a character may stand in a comment. -/
def isCommentChar (c : Char) : Bool := c == '\t' || (' ' ≤ c && c.toNat != 0x7F)

/-- Pass over spaces and tabs. -/
def skipBlanks (rest : List Char) : List Char := rest.dropWhile isBlank

/-- Pass over one line end. -/
def lineEnd? : List Char → Option (List Char)
  | '\n' :: rest => some rest
  | '\x0d' :: '\n' :: rest => some rest
  | _ => none

/-- Pass over blanks and line ends. -/
def skipSpace : List Char → List Char
  | [] => []
  | c :: rest =>
      if isBlank c || c == '\n' then skipSpace rest
      else
        match c, rest with
        | '\x0d', '\n' :: rest => skipSpace rest
        | c, rest => c :: rest

/-- Pass over what may follow at the end of a line: blanks, a comment, and the line end itself or
the end of the source. -/
def lineRest? (rest : List Char) : Option (List Char) :=
  let rest := match skipBlanks rest with
    | '#' :: rest => rest.dropWhile isCommentChar
    | rest => rest
  if rest.isEmpty then some [] else lineEnd? rest

/-- Pass over blanks, line ends and comments. -/
def skipTrivia : Bool → List Char → List Char
  | _, [] => []
  | inComment, c :: rest =>
      if inComment && isCommentChar c then skipTrivia true rest
      else if isBlank c || c == '\n' then skipTrivia false rest
      else if c == '#' then skipTrivia true rest
      else
        match c, rest with
        | '\x0d', '\n' :: rest => skipTrivia false rest
        | c, rest => c :: rest

/-- Whether a character may stand for itself in a quoted text on one line. -/
def isTextChar (c : Char) : Bool := isCommentChar c && c != '"' && c != '\\'

/-- The character that hexadecimal digits name. -/
def charOfHex? (digits : List Char) : Option Char :=
  (naturalOfText? 16 digits).bind fun n => if n.isValidChar then some (Char.ofNat n) else none

/-- The character after a backslash. -/
def escape? : List Char → Option (Char × List Char)
  | 'b' :: rest => some ('\x08', rest)
  | 't' :: rest => some ('\t', rest)
  | 'n' :: rest => some ('\n', rest)
  | 'f' :: rest => some ('\x0c', rest)
  | 'r' :: rest => some ('\x0d', rest)
  | '"' :: rest => some ('"', rest)
  | '\\' :: rest => some ('\\', rest)
  | 'u' :: a :: b :: c :: d :: rest => (charOfHex? [a, b, c, d]).map (·, rest)
  | 'U' :: a :: b :: c :: d :: e :: f :: g :: h :: rest =>
      (charOfHex? [a, b, c, d, e, f, g, h]).map (·, rest)
  | _ => none

/-- The rest of a quoted text on one line. -/
def quotedText : Nat → List Char → Option (List Char × List Char)
  | 0, _ => none
  | fuel + 1, rest =>
      match rest with
      | '"' :: rest => some ([], rest)
      | '\\' :: rest => do
          let (c, rest) ← escape? rest
          let (text, rest) ← quotedText fuel rest
          pure (c :: text, rest)
      | c :: rest =>
          if isTextChar c then (quotedText fuel rest).map fun (text, rest) => (c :: text, rest)
          else none
      | [] => none

/-- The rest of a literal text on one line. -/
def literalText (rest : List Char) : Option (List Char × List Char) :=
  let isOwn (c : Char) : Bool := isCommentChar c && c != '\''
  match rest.dropWhile isOwn with
  | '\'' :: after => some (rest.takeWhile isOwn, after)
  | _ => none

/-- The end of a text between triple quotes: up to two quotes before the closing three belong to the
text. -/
def closing? (quote : Char) (rest : List Char) : Option (List Char × List Char) :=
  let count := (rest.takeWhile (· == quote)).length
  if 3 ≤ count then
    let own := min (count - 3) 2
    some (List.replicate own quote, rest.drop (own + 3))
  else none

/-- The rest of a text between triple quotes. With escapes, a backslash at the end of a line takes
the line end and the blanks around it away. -/
def longText (quote : Char) (escapes : Bool) : Nat → List Char → Option (List Char × List Char)
  | 0, _ => none
  | fuel + 1, rest =>
      match closing? quote rest with
      | some result => some result
      | none =>
          let goOn (c : Char) (rest : List Char) : Option (List Char × List Char) :=
            (longText quote escapes fuel rest).map fun (text, rest) => (c :: text, rest)
          match rest with
          | [] => none
          | '\\' :: rest =>
              if escapes then
                match lineEnd? (skipBlanks rest) with
                | some after => longText quote escapes fuel (skipSpace after)
                | none => (escape? rest).bind fun (c, rest) => goOn c rest
              else goOn '\\' rest
          | c :: rest =>
              match lineEnd? (c :: rest) with
              | some after => goOn '\n' after
              | none => if isCommentChar c then goOn c rest else none

/-- The text of any form that begins here. -/
def readText? (rest : List Char) : Option (String × List Char) :=
  let long (quote : Char) (escapes : Bool) (rest : List Char) : Option (List Char × List Char) :=
    longText quote escapes (rest.length + 1) ((lineEnd? rest).getD rest)
  let read : Option (List Char × List Char) :=
    match rest with
    | '"' :: '"' :: '"' :: rest => long '"' true rest
    | '\'' :: '\'' :: '\'' :: rest => long '\'' false rest
    | '"' :: rest => quotedText (rest.length + 1) rest
    | '\'' :: rest => literalText rest
    | _ => none
  read.map fun (text, rest) => (String.ofList text, rest)

/-- The key that begins here, without its dots: bare, quoted or literal. -/
def readKey? (rest : List Char) : Option (String × List Char) :=
  let isBare (c : Char) : Bool := c.isAlphanum || c == '_' || c == '-'
  match rest with
  | '"' :: after =>
      (quotedText (after.length + 1) after).map fun (text, rest) => (String.ofList text, rest)
  | '\'' :: after => (literalText after).map fun (text, rest) => (String.ofList text, rest)
  | _ =>
      let name := rest.takeWhile isBare
      if name.isEmpty then none else some (String.ofList name, rest.dropWhile isBare)

end GaleraProxy.Toml
