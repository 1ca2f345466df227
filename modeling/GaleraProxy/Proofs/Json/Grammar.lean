import GaleraProxy.Json.Document
import GaleraProxy.Proofs.Json.Text

/-!
# The grammar of JSON texts

The grammar is given over the bytes of a text, whatever the readers do. Nothing outside of texts is
written with more than one byte per character, and the bytes of a character that is not escaped
stand for themselves. `Denotes` says which characters stand between the quotes of a text; a text
that is only passed over may have escapes that denote none.
-/

namespace GaleraProxy.Json.Grammar

/-- Blank space. -/
def IsBlank (s : List UInt8) : Prop := ∀ b ∈ s, isBlank b = true

theorem IsBlank.append {s t : List UInt8} (hs : IsBlank s) (ht : IsBlank t) : IsBlank (s ++ t) :=
  fun b hb => (List.mem_append.mp hb).elim (hs b) (ht b)

/-! ## Numbers -/

/-- One or more digits. -/
def IsDigits (s : List UInt8) : Prop := s ≠ [] ∧ ∀ b ∈ s, isDigit b = true

/-- The whole part of a number: digits of which only a single one is a zero at the front. -/
def IsWhole (s : List UInt8) : Prop := s = [0x30] ∨ IsDigits s ∧ s.head? ≠ some 0x30

/-- The fraction of a number, if there is one. -/
def IsFraction (s : List UInt8) : Prop := s = [] ∨ ∃ digits, s = 0x2E :: digits ∧ IsDigits digits

/-- The exponent of a number, if there is one. -/
def IsExponent (s : List UInt8) : Prop :=
  s = [] ∨ ∃ letter sign digits, s = letter :: (sign ++ digits) ∧
    (letter = 0x65 ∨ letter = 0x45) ∧ (sign = [] ∨ sign = [0x2B] ∨ sign = [0x2D]) ∧
    IsDigits digits

/-- A number after its sign. -/
def IsUnsigned (s : List UInt8) : Prop :=
  ∃ whole fraction exponent, s = whole ++ (fraction ++ exponent) ∧
    IsWhole whole ∧ IsFraction fraction ∧ IsExponent exponent

/-- A number. -/
def IsNumber (s : List UInt8) : Prop := IsUnsigned s ∨ ∃ unsigned, s = 0x2D :: unsigned ∧
  IsUnsigned unsigned

/-! ## Texts -/

/-- The letters of the short escapes, and what they stand for. -/
def letters : List (UInt8 × Char) :=
  [(0x22, '"'), (0x5C, '\\'), (0x2F, '/'), (0x62, '\x08'), (0x66, '\x0c'), (0x6E, '\n'),
   (0x72, '\x0d'), (0x74, '\t')]

/-- Four hexadecimal digits that stand for a number. -/
def IsCode (s : List UInt8) (n : Nat) : Prop :=
  ∃ w x y z w' x' y' z', s = [w, x, y, z] ∧ hexValue? w = some w' ∧ hexValue? x = some x' ∧
    hexValue? y = some y' ∧ hexValue? z = some z' ∧ n = ((w' * 16 + x') * 16 + y') * 16 + z'

/-- What may stand after a backslash, whether or not it denotes a character. -/
inductive IsEscape : List UInt8 → Prop where
  | letter {b : UInt8} {c : Char} (hb : (b, c) ∈ letters) : IsEscape [b]
  | code {digits : List UInt8} {n : Nat} (h : IsCode digits n) : IsEscape (0x75 :: digits)

/-- What stands after a backslash for a character. One beyond the first plane is given by a pair of
surrogates, and no surrogate stands alone. -/
inductive Escapes : List UInt8 → Char → Prop where
  | letter {b : UInt8} {c : Char} (hb : (b, c) ∈ letters) : Escapes [b] c
  | code {digits : List UInt8} {n : Nat} (h : IsCode digits n) (hn : n < 0xD800 ∨ 0xDFFF < n) :
      Escapes (0x75 :: digits) (Char.ofNat n)
  | pair {high low : List UInt8} {m n : Nat} (hhigh : IsCode high m) (hlow : IsCode low n)
      (hm : 0xD800 ≤ m ∧ m ≤ 0xDBFF) (hn : 0xDC00 ≤ n ∧ n ≤ 0xDFFF) :
      Escapes (0x75 :: (high ++ 0x5C :: 0x75 :: low))
        (Char.ofNat ((m - 0xD800) * 0x400 + (n - 0xDC00) + 0x10000))

/-- What stands between the quotes of a text, whether or not its escapes denote characters. -/
inductive IsText : List UInt8 → Prop where
  | nil : IsText []
  | plain {b : UInt8} {s : List UInt8} (hb : IsPlain b) (h : IsText s) : IsText (b :: s)
  | escape {escaped s : List UInt8} (hescaped : IsEscape escaped) (h : IsText s) :
      IsText (0x5C :: (escaped ++ s))

/-- What stands between the quotes of a text, with the bytes of the characters that it denotes. -/
inductive Denotes : List UInt8 → List UInt8 → Prop where
  | nil : Denotes [] []
  | plain {b : UInt8} {s t : List UInt8} (hb : IsPlain b) (h : Denotes s t) :
      Denotes (b :: s) (b :: t)
  | escape {escaped s t : List UInt8} {c : Char} (hescaped : Escapes escaped c) (h : Denotes s t) :
      Denotes (0x5C :: (escaped ++ s)) (String.utf8EncodeChar c ++ t)

/-! ## Values -/

/-- Items one after another, with commas between them and blank space wherever it may stand.
`Spells` says how an item is written, and the flag whether the first of all items is still to come.
-/
inductive Series {α : Type} (Spells : α → List UInt8 → Prop) :
    Bool → List α → List UInt8 → Prop where
  | nil {first : Bool} {s : List UInt8} (h : IsBlank s) : Series Spells first [] s
  | first {a : α} {as : List α} {before text s : List UInt8} (hbefore : IsBlank before)
      (ha : Spells a text) (h : Series Spells false as s) :
      Series Spells true (a :: as) (before ++ (text ++ s))
  | next {a : α} {as : List α} {before after text s : List UInt8} (hbefore : IsBlank before)
      (hafter : IsBlank after) (ha : Spells a text) (h : Series Spells false as s) :
      Series Spells false (a :: as) (before ++ 0x2C :: (after ++ (text ++ s)))

/-- A member of an object: a key between quotes, a colon and a value. -/
def IsMember (IsKey : List UInt8 → Prop) (value s : List UInt8) : Prop :=
  ∃ key before after, s = 0x22 :: (key ++ 0x22 :: (before ++ 0x3A :: (after ++ value))) ∧
    IsKey key ∧ IsBlank before ∧ IsBlank after

/-- The byte that opens a container. -/
def opening : Container → UInt8
  | .list => 0x5B
  | .object => 0x7B

/-- How an item of a container is written. -/
def Spells : Container → List UInt8 → List UInt8 → Prop
  | .list => Eq
  | .object => IsMember IsText

/-- A value without parts. -/
inductive IsScalar : List UInt8 → Prop where
  | null : IsScalar (Utf8.bytes ['n', 'u', 'l', 'l'])
  | true : IsScalar (Utf8.bytes ['t', 'r', 'u', 'e'])
  | false : IsScalar (Utf8.bytes ['f', 'a', 'l', 's', 'e'])
  | number {s : List UInt8} (h : IsNumber s) : IsScalar s
  | text {s : List UInt8} (h : IsText s) : IsScalar (0x22 :: (s ++ [0x22]))

/-- A value. -/
inductive IsValue : List UInt8 → Prop where
  | scalar {s : List UInt8} (h : IsScalar s) : IsValue s
  | container {c : Container} {vs : List (List UInt8)} {s : List UInt8} (hvs : ∀ v ∈ vs, IsValue v)
      (h : Series (Spells c) Bool.true vs s) : IsValue (opening c :: (s ++ [c.closing]))

end GaleraProxy.Json.Grammar
