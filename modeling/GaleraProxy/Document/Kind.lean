import GaleraProxy.Json.Value

/-!
# Kinds of values

A `Kind` is a part of the language of a document: which values belong to it, and what a value means
once everything that it leaves unsaid has been filled in. Records are made of settings, each of them
required or with a default. Nothing here depends on a notation.
-/

namespace GaleraProxy.Document

/-- A kind of values: which values belong to it, on which values the notations of a document agree,
and a value with all that it leaves unsaid. The notations do not agree on everything, since a number
may be taken for a text and a list for a record in some of them. -/
structure Kind where
  admits : Json → Bool
  agreed : Json → Bool
  complete : Json → Json

namespace Kind

/-- Texts. -/
def text : Kind where
  admits
    | .text _ => true
    | _ => false
  agreed
    | .bool _ | .int _ => false
    | _ => true
  complete v := v

/-- Truth values. -/
def flag : Kind where
  admits
    | .bool _ => true
    | _ => false
  agreed _ := true
  complete v := v

/-- Whole numbers from zero up to a bound. -/
def below (bound : Nat) : Kind where
  admits
    | .int n => decide (0 ≤ n ∧ n < bound)
    | _ => false
  agreed _ := true
  complete v := v

/-- Ports. -/
def port : Kind := below 65536

/-- Numbers of 64 bits. -/
def word : Kind := below UInt64.size

/-- Lists of values of one kind. -/
def list (item : Kind) : Kind where
  admits
    | .list items => items.all item.admits
    | _ => false
  agreed
    | .list items => items.all item.agreed
    | _ => true
  complete
    | .list items => .list (items.map item.complete)
    | v => v

end Kind

/-- A setting of a record: its key, the kind of its value, and what it is if the record says nothing
about it, unless it is required. -/
structure Setting where
  key : String
  kind : Kind
  default : Option Json

namespace Setting

/-- A setting that every record has. -/
def required (key : String) (kind : Kind) : Setting := ⟨key, kind, none⟩

/-- A setting with a default. -/
def optional (key : String) (kind : Kind) (default : Json) : Setting := ⟨key, kind, some default⟩

/-- What a record's members make of a setting. -/
def value? (s : Setting) (members : List (String × Json)) : Option Json :=
  match members.lookup s.key with
  | some v => some (s.kind.complete v)
  | none => s.default

end Setting

/-- Records: no key is repeated, every key is that of a setting and its value of the kind of that
setting, and every required setting is there. The keys may come in any order. -/
def Kind.record (settings : List Setting) : Kind where
  admits
    | .object members =>
        decide (members.map (·.1)).Nodup
          && (members.all fun m => settings.any fun s => s.key == m.1 && s.kind.admits m.2)
          && settings.all fun s => (s.value? members).isSome
    | _ => false
  agreed
    | .object members =>
        members.all fun m => settings.all fun s => s.key != m.1 || s.kind.agreed m.2
    | .list _ => false
    | _ => true
  complete
    | .object members => .object (settings.map fun s => (s.key, (s.value? members).getD .null))
    | v => v

end GaleraProxy.Document
