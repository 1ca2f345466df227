import GaleraProxy.Http.Form

/-!
# Traffic updates

An operator switches traffic by the query of a request: `trafficEnabled` is one of twelve spellings
of a truth value, and `message` says why. Each may be given once, and disabling traffic needs a
message.
-/

namespace GaleraProxy

/-- The truth value that a text spells. -/
def flagOfText? (text : String) : Option Bool :=
  if ["1", "t", "T", "TRUE", "true", "True"].contains text then some true
  else if ["0", "f", "F", "FALSE", "false", "False"].contains text then some false
  else none

/-- The fields of an update as they are given. -/
structure UpdateFields where
  flag : Option String
  note : Option String
  deriving DecidableEq, Repr

/-- Why an update is refused. -/
inductive UpdateError where
  | repeated (key : String)
  | noFlag
  | noNote
  deriving DecidableEq, Repr

/-- The words for a refused update. -/
def UpdateError.message : UpdateError → String
  | repeated key => "Failed to deserialize query string: duplicate field `" ++ key ++ "`"
  | noFlag => "Failed to parse trafficEnabled"
  | noNote => "message must not be empty"

/-- The key of the flag. -/
def flagKey : String := "trafficEnabled"

/-- The key of the message. -/
def noteKey : String := "message"

/-- Take in one field of a query. Other keys do not matter. -/
def UpdateFields.take (u : UpdateFields) (field : String × String) :
    Except UpdateError UpdateFields :=
  if field.1 = flagKey then
    if u.flag.isSome then .error (.repeated flagKey) else .ok { u with flag := some field.2 }
  else if field.1 = noteKey then
    if u.note.isSome then .error (.repeated noteKey) else .ok { u with note := some field.2 }
  else .ok u

/-- The decision that a query asks for: whether traffic is let through, and the message. -/
def readUpdate (query : String) : Except UpdateError (Bool × String) := do
  let fields ← (Http.formFields query).foldlM UpdateFields.take ⟨none, none⟩
  let note := fields.note.getD ""
  match fields.flag.bind flagOfText? with
  | none => .error .noFlag
  | some true => .ok (true, note)
  | some false => if note.isEmpty then .error .noNote else .ok (false, note)

end GaleraProxy
