import GaleraProxy.Text.Base64
import GaleraProxy.Text.Quoted
import GaleraProxy.Text.Utf8

/-!
# PEM bundles

A bundle holds sections between a `BEGIN` and an `END` line of one label, with Base64 in between;
all else is ignored. `Pem.certificates` decodes the certificates of a bundle, and `Pem.validate`
counts them for a configuration that must have at least one.
-/

namespace GaleraProxy.Pem

/-- What is wrong with a bundle. -/
inductive Error where
  | missingEnd (label : List UInt8)
  | illegalStart (line : List UInt8)
  | base64 (error : Base64.Error)
  deriving Repr, DecidableEq

/-- The words for an error. -/
def Error.message : Error → String
  | .missingEnd label => "section end " ++ Text.quoted (Utf8.decodeLossy label) ++ " missing"
  | .illegalStart line => "illegal section start: " ++ Text.quoted (Utf8.decodeLossy line)
  | .base64 e => e.message

/-- Split into lines that keep their line end; a carriage return also ends a line. -/
def lines (line : List UInt8) : List UInt8 → List (List UInt8)
  | [] => if line.isEmpty then [] else [line.reverse]
  | b :: rest =>
      if b = 0x0A ∨ b = 0x0D then (b :: line).reverse :: lines [] rest else lines (b :: line) rest

/-- The bytes of a basic text. -/
def ascii (s : String) : List UInt8 := s.toList.map fun c => UInt8.ofNat c.toNat

/-- The front of a line that begins a section. -/
def beginMark : List UInt8 := ascii "-----BEGIN "

/-- The dashes that close a marker. -/
def dashes : List UInt8 := ascii "-----"

/-- Whether a byte may follow the dashes of a marker, or stand between them. -/
def isTrailing (b : UInt8) : Bool := b == 0x0A || b == 0x0D || b == 0x20

/-- The label of a line that begins a section, which must end in exactly five dashes. -/
def beginLabel? (line : List UInt8) : Option (List UInt8) :=
  let back := line.reverse
  let trailer := back.takeWhile fun b => b == 0x2D || isTrailing b
  let padding := (trailer.reverse.takeWhile isTrailing).length
  let label := (back.drop (trailer.length - padding)).reverse.drop beginMark.length
  if trailer.countP (· == 0x2D) = 5 then some label else none

/-- The front of the line that ends a section. -/
def endMark (label : List UInt8) : List UInt8 := ascii "-----END " ++ label ++ dashes

/-- The label of certificates. -/
def certificateLabel : List UInt8 := ascii "CERTIFICATE"

/-- The labels whose contents are decoded. -/
def knownLabels : List (List UInt8) :=
  [certificateLabel, ascii "PUBLIC KEY", ascii "RSA PRIVATE KEY", ascii "PRIVATE KEY",
   ascii "EC PRIVATE KEY", ascii "X509 CRL", ascii "CERTIFICATE REQUEST", ascii "ECHCONFIG"]

/-- Read sections from the lines on. `label` is that of the open section and `body` what it holds so
far, in reverse. The result is one certificate, error or end at a time. -/
def sections (label : Option (List UInt8)) (body : List (List UInt8)) :
    List (List UInt8) → List (Except Error (List UInt8))
  | [] =>
      match label with
      | some label => [.error (.missingEnd label)]
      | none => []
  | line :: rest =>
      if beginMark.isPrefixOf line then
        match beginLabel? line with
        | some label => sections (some label) body rest
        | none => [.error (.illegalStart line)]
      else
        match label with
        | none => sections none body rest
        | some label =>
            if (endMark label).isPrefixOf line then
              if knownLabels.contains label then
                match Base64.decode body.reverse.flatten with
                | .error e => [.error (.base64 e)]
                | .ok der =>
                    let others := sections none [] rest
                    if label = certificateLabel then .ok der :: others else others
              else sections none [] rest
            else sections (some label) (line :: body) rest

/-- The certificates of a bundle up to its first error. -/
def certificateResults (bundle : String) : List (Except Error (List UInt8)) :=
  sections none [] (lines [] (Utf8.encode bundle))

/-- All certificates of a bundle. -/
def certificates (bundle : String) : Except Error (List (List UInt8)) :=
  (certificateResults bundle).mapM id

/-- Why a bundle cannot be used. -/
inductive Invalid where
  | malformed (error : Error)
  | noCertificates
  deriving Repr, DecidableEq

/-- The words for an unusable bundle. -/
def Invalid.message : Invalid → String
  | .malformed e => "CA bundle is not valid PEM: " ++ e.message
  | .noCertificates => "CA bundle contains no certificates"

/-- Count the certificates of a bundle, which must have one. -/
def validate (bundle : String) : Except Invalid Nat :=
  match certificates bundle with
  | .error e => .error (.malformed e)
  | .ok [] => .error .noCertificates
  | .ok certs => .ok certs.length

end GaleraProxy.Pem
