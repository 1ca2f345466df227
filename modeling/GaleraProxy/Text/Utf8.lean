/-!
# UTF-8

Strict and lossy readings of bytes as text. `decode?` accepts exactly the well-formed sequences;
`decodeLossy` replaces every longest ill-formed stretch that could have begun a character by U+FFFD.
-/

namespace GaleraProxy.Utf8

/-- Whether a byte continues a character. -/
def isContinuation (b : UInt8) : Bool := 0x80 ≤ b && b ≤ 0xBF

/-- The low six bits of a continuation byte. -/
def payload (b : UInt8) : Nat := b.toNat % 64

/-- How a stretch of bytes begins: with a character and its length, or with so many bytes that
belong to none. -/
inductive Head where
  | char (c : Char) (length : Nat)
  | malformed (length : Nat)

/-- What stands at the front of a nonempty stretch of bytes. A lead byte with fewer good followers
than it needs takes those followers with it. -/
def head (a : UInt8) (rest : List UInt8) : Head :=
  let inside (low high b : UInt8) : Bool := low ≤ b && b ≤ high
  if a < 0x80 then .char (Char.ofNat a.toNat) 1
  else if inside 0xC2 0xDF a then
    match rest with
    | b :: _ =>
        if isContinuation b then .char (Char.ofNat (a.toNat % 32 * 64 + payload b)) 2
        else .malformed 1
    | [] => .malformed 1
  else if inside 0xE0 0xEF a then
    let low : UInt8 := if a = 0xE0 then 0xA0 else 0x80
    let high : UInt8 := if a = 0xED then 0x9F else 0xBF
    match rest with
    | b :: rest =>
        if inside low high b then
          match rest with
          | c :: _ =>
              if isContinuation c then
                .char (Char.ofNat ((a.toNat % 16 * 64 + payload b) * 64 + payload c)) 3
              else .malformed 2
          | [] => .malformed 2
        else .malformed 1
    | [] => .malformed 1
  else if inside 0xF0 0xF4 a then
    let low : UInt8 := if a = 0xF0 then 0x90 else 0x80
    let high : UInt8 := if a = 0xF4 then 0x8F else 0xBF
    match rest with
    | b :: rest =>
        if inside low high b then
          match rest with
          | c :: rest =>
              if isContinuation c then
                match rest with
                | d :: _ =>
                    if isContinuation d then
                      let upper := (a.toNat % 8 * 64 + payload b) * 64 + payload c
                      .char (Char.ofNat (upper * 64 + payload d)) 4
                    else .malformed 3
                | [] => .malformed 3
              else .malformed 2
          | [] => .malformed 2
        else .malformed 1
    | [] => .malformed 1
  else .malformed 1

/-- Read bytes whose first `skip` belong to a character already read. -/
def decodeFrom? (skip : Nat) : List UInt8 → Option (List Char)
  | [] => some []
  | b :: rest =>
      match skip with
      | n + 1 => decodeFrom? n rest
      | 0 =>
          match head b rest with
          | .char c n => (decodeFrom? (n - 1) rest).map (c :: ·)
          | .malformed _ => none

/-- The text of well-formed bytes. -/
def decode? (bytes : List UInt8) : Option String :=
  (decodeFrom? 0 bytes).map String.ofList

/-- Read bytes with U+FFFD in place of what is ill-formed. -/
def decodeLossyFrom (skip : Nat) : List UInt8 → List Char
  | [] => []
  | b :: rest =>
      match skip with
      | n + 1 => decodeLossyFrom n rest
      | 0 =>
          match head b rest with
          | .char c n => c :: decodeLossyFrom (n - 1) rest
          | .malformed n => '\uFFFD' :: decodeLossyFrom (n - 1) rest

/-- The text of any bytes. -/
def decodeLossy (bytes : List UInt8) : String := String.ofList (decodeLossyFrom 0 bytes)

/-- The bytes of a text. -/
def encode (s : String) : List UInt8 := s.toUTF8.toList

/-- The number of bytes of a character. -/
def width (c : Char) : Nat := c.utf8Size

end GaleraProxy.Utf8
