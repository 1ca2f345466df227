import GaleraProxy.Unicode.Printable

/-!
# Quoted text in messages

Messages and logs show a text they were given between double quotes, with backslash escapes for the
quote, the backslash, line ends and tabs, and `\u` escapes for every character that would not show.
`quoted` writes a text and `quotedList` a list of texts.
-/

namespace GaleraProxy.Text

/-- The lower-case hexadecimal digits of a number. -/
def hexDigits (n : Nat) : String := String.ofList (Nat.toDigits 16 n)

/-- A character as it stands between quotes. -/
def quotedChar (c : Char) : String :=
  if c = '\x00' then "\\0"
  else if c = '\t' then "\\t"
  else if c = '\n' then "\\n"
  else if c = '\x0d' then "\\r"
  else if c = '"' then "\\\""
  else if c = '\\' then "\\\\"
  else if Unicode.isExtending c ∨ ¬ Unicode.isPrintable c then
    "\\u\x7b" ++ hexDigits c.toNat ++ "\x7d"
  else String.singleton c

/-- A text between double quotes. -/
def quoted (s : String) : String :=
  "\"" ++ String.join (s.toList.map quotedChar) ++ "\""

/-- Texts in brackets, each between double quotes. -/
def quotedList (texts : List String) : String :=
  "[" ++ ", ".intercalate (texts.map quoted) ++ "]"

end GaleraProxy.Text
