import GaleraProxy.Certificate.Der
import GaleraProxy.Certificate.Pem
import GaleraProxy.Config.Model
import GaleraProxy.Error

/-!
# Trusted authorities

A certificate becomes a trusted authority if its outline can be read: version 3 with one signature
algorithm throughout and with extensions that are known or need not be known, or version 1. The
signature itself and the times are not looked at. `AgentTls.check` reads the whole bundle of a
configuration.
-/

namespace GaleraProxy.Certificate

open Der

/-- Why a certificate cannot be trusted. -/
inductive Refusal where
  | badEncoding
  | algorithmMismatch
  | criticalExtension
  | badExtension
  deriving DecidableEq, Repr

/-- The words for a refusal. -/
def Refusal.message : Refusal → String
  | .badEncoding => "invalid peer certificate: BadEncoding"
  | .algorithmMismatch => "invalid peer certificate: Other(OtherError(SignatureAlgorithmMismatch))"
  | .criticalExtension =>
      "invalid peer certificate: Other(OtherError(UnsupportedCriticalExtension))"
  | .badExtension => "invalid peer certificate: Other(OtherError(ExtensionValueInvalid))"

/-- The outcome of looking at a part. -/
abbrev Look := Except Refusal

/-- A part that has to be there. -/
def need {α : Type} (part : Option α) : Look α :=
  match part with
  | some a => .ok a
  | none => .error .badEncoding

/-- Nothing may be left. -/
def done (rest : Bytes) : Look Unit := if rest.isEmpty then .ok () else .error .badEncoding

/-- The extensions that are understood, by the last byte of their identifiers. -/
def understood : List UInt8 := [15, 17, 19, 30, 31, 37]

/-- The number of an extension that is understood. -/
def understood? (identifier : Bytes) : Option UInt8 :=
  match identifier with
  | [0x55, 0x1D, n] => if understood.contains n then some n else none
  | _ => none

/-- Whether an extension is marked as critical, and what follows the mark. -/
def critical? (rest : Bytes) : Option (Bool × Bytes) :=
  match expect? booleanTag rest with
  | none => some (false, rest)
  | some ([0xFF], rest) => some (true, rest)
  | some ([0x00], rest) => some (false, rest)
  | some _ => none

/-- Look at one extension; `seen` holds those of the known ones that came before it. -/
def lookAtExtension (seen : List UInt8) (extension : Bytes) : Look (List UInt8) := do
  let (identifier, rest) ← need (expect? identifierTag extension)
  let (critical, rest) ← need (critical? rest)
  let (value, rest) ← need (expect? octetStringTag rest)
  done rest
  match understood? identifier with
  | none => if critical then .error .criticalExtension else .ok seen
  | some n =>
      if seen.contains n then .error .badExtension
      else
        if n ≠ 15 then
          let (_, rest) ← need (expect? sequenceTag value)
          done rest
        .ok (n :: seen)

/-- Look at the extensions of a certificate. -/
def lookAtExtensions (rest : Bytes) : Look Unit := do
  if rest.isEmpty then return
  let (tagged, rest) ← need (expect? (fieldTag 3) rest)
  done rest
  let (list, rest) ← need (expect? sequenceTag tagged)
  done rest
  let extensions ← need (items? sequenceTag list.length list)
  let _ ← extensions.foldlM lookAtExtension []

/-- Pass over the serial number, which has at least one byte. -/
def serial? (rest : Bytes) : Option Bytes :=
  match expect? integerTag rest with
  | some (_ :: _, rest) => some rest
  | _ => none

/-- The parts of a certificate: what is signed, the signature's algorithm, and nothing after the
signature. -/
def parts? (certificate : Bytes) : Option (Bytes × Bytes) := do
  let (outer, rest) ← expect? sequenceTag certificate
  let (signed, inner) ← expect? sequenceTag outer
  let (algorithm, inner) ← expect? sequenceTag inner
  let (signature, inner) ← expect? bitStringTag inner
  if rest.isEmpty ∧ inner.isEmpty ∧ signature.head? = some 0 then some (signed, algorithm) else none

/-- What follows the version of a certificate of version 3. -/
def afterVersion3? (signed : Bytes) : Option Bytes :=
  match expect? (fieldTag 0) signed with
  | some ([0x02, 0x01, 0x02], rest) => some rest
  | _ => none

/-- Whether what is signed is that of a certificate of version 1. -/
def isVersion1 (signed : Bytes) : Bool :=
  let rest? := do
    let rest ← serial? signed
    let (_, rest) ← expect? sequenceTag rest
    let (_, rest) ← expect? sequenceTag rest
    let (_, rest) ← expect? sequenceTag rest
    let (_, rest) ← expect? sequenceTag rest
    let (_, rest) ← expect? sequenceTag rest
    pure rest
  rest? == some []

/-- Look at a certificate as an authority. -/
def lookAtAuthority (certificate : Bytes) : Look Unit := do
  let (signed, algorithm) ← need (parts? certificate)
  match afterVersion3? signed with
  | none => if isVersion1 signed then .ok () else .error .badEncoding
  | some rest =>
      let rest ← need (serial? rest)
      let (own, rest) ← need (expect? sequenceTag rest)
      if own ≠ algorithm then .error .algorithmMismatch
      else
        let (_, rest) ← need (expect? sequenceTag rest)
        let (_, rest) ← need (expect? sequenceTag rest)
        let (_, rest) ← need (expect? sequenceTag rest)
        let (_, rest) ← need (expect? sequenceTag rest)
        lookAtExtensions rest

/-- Look at the certificates of a bundle in order. -/
def lookAtBundle : List (Except Pem.Error (List UInt8)) → Except ProxyError Unit
  | [] => .ok ()
  | .error e :: _ => .error (.tls ("invalid CA PEM: " ++ e.message))
  | .ok certificate :: rest =>
      match lookAtAuthority certificate with
      | .error refusal => .error (.tls ("unusable CA certificate: " ++ refusal.message))
      | .ok () => lookAtBundle rest

end GaleraProxy.Certificate

namespace GaleraProxy

/-- Whether agents can be reached with these settings: with TLS there must be at least one
authority, and every certificate of the bundle must be one. -/
def AgentTls.check (t : AgentTls) : Except ProxyError Unit :=
  if t.enabled then
    let results := Pem.certificateResults t.ca
    match Certificate.lookAtBundle results with
    | .error e => .error e
    | .ok () =>
        if results.isEmpty then .error (.tls "CA bundle contains no certificates") else .ok ()
  else .ok ()

end GaleraProxy
