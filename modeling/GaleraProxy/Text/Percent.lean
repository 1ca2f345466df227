import GaleraProxy.Number.Decimal

/-!
# Percent encoding

A percent sign and two hexadecimal digits stand for a byte. `Percent.decode` replaces them and keeps
every percent sign that is not followed by two digits.
-/

namespace GaleraProxy.Percent

/-- The value of a pair of hexadecimal digits. -/
def hexPair? (a b : UInt8) : Option UInt8 := do
  let high ← digitValue? (Char.ofNat a.toNat)
  let low ← digitValue? (Char.ofNat b.toNat)
  pure (UInt8.ofNat (high * 16 + low))

/-- Replace each percent sign with two hexadecimal digits by the byte they denote. -/
def decode : List UInt8 → List UInt8
  | [] => []
  | 0x25 :: a :: b :: rest =>
      match hexPair? a b with
      | some byte => byte :: decode rest
      | none => 0x25 :: decode (a :: b :: rest)
  | byte :: rest => byte :: decode rest

end GaleraProxy.Percent
