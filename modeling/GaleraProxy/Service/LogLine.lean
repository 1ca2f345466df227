import GaleraProxy.Service.Basic

/-!
# Lines of the log

A line of the log is an event together with the part of the service that tells it. It is written as
a JSON object whose fields are in alphabetical order.
-/

namespace GaleraProxy

/-- An event and the part of the service that tells it; none tells the events of the program itself.
-/
structure LogLine where
  part : Option Component
  event : Event
  deriving DecidableEq, Repr

namespace LogLine

/-- The lines that effects lead to. Gauges are not logged. -/
def ofEffects (effects : List (Component × Effect)) : List LogLine :=
  effects.filterMap fun (part, effect) =>
    match effect with
    | .log event => some ⟨some part, event⟩
    | .gauge .. => none

/-- How a part is shown in a line. -/
def partJson (part : Component) : Json :=
  .object [("component", .text part.name), ("name", .text programName)]

/-- The fields of a line. A field of the event that is called as the text is takes its place. -/
def fieldsJson (e : Event) : Json :=
  let fields := e.fields
  let text := if fields.any (·.1 == "message") then [] else [("message", Json.text e.message)]
  (Json.object (text ++ fields)).sorted

/-- The members of a line besides its time. -/
def members (l : LogLine) : List (String × Json) :=
  [("level", .text l.event.level.label), ("fields", fieldsJson l.event)]
    ++ (match l.part with
        | some part => [("span", partJson part), ("spans", .list [partJson part])]
        | none => [])

/-- A line without its time. -/
def toJson (l : LogLine) : Json := .object l.members

/-- A line with its time. -/
def toTimedJson (l : LogLine) (time : Timestamp) : Json :=
  .object (("timestamp", .text time.microText) :: l.members)

/-- A line for people: its time, its level, its text and its fields. -/
def toText (l : LogLine) (time : Timestamp) : String :=
  let fields := l.event.fields.filter (·.1 != "message")
  ", ".intercalate
    ((time.microText ++ "  " ++ l.event.level.label ++ " " ++ l.event.message)
      :: fields.map fun f => f.1 ++ ": " ++ f.2.render)

/-- Whether a line is written at a level of logging. -/
def isWritten (level : LogLevel) (l : LogLine) : Bool := l.event.level.rank ≤ level.rank

end LogLine

end GaleraProxy
