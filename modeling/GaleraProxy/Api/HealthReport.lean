import GaleraProxy.Json.Document
import GaleraProxy.Json.Value

/-!
# The health of an instance

`HealthReport` is what an instance says of itself at its health route. `toJson` writes a report, and
`parse` reads one: an absent active backend may be left out, and what is not known is passed over.
-/

namespace GaleraProxy

open Document

/-- The configuration that an instance runs with: where it was read, and its version. -/
structure ConfigHealth where
  source : String
  version : String
  deriving DecidableEq, Repr

/-- The number of backends, and how many of them are healthy. -/
structure BackendsHealth where
  total : UInt64
  healthy : UInt64
  deriving DecidableEq, Repr

/-- What an instance says of itself. -/
structure HealthReport where
  status : String
  version : String
  commit : String
  uptimeSeconds : UInt64
  config : ConfigHealth
  backends : BackendsHealth
  trafficEnabled : Bool
  activeBackend : Option String
  deriving DecidableEq, Repr

namespace HealthReport

/-- The written form of a report. -/
def toJson (r : HealthReport) : Json :=
  .object
    [("status", .text r.status), ("version", .text r.version), ("commit", .text r.commit),
     ("uptime_seconds", .nat r.uptimeSeconds.toNat),
     ("config", .object [("source", .text r.config.source), ("version", .text r.config.version)]),
     ("backends", .object
        [("total", .nat r.backends.total.toNat), ("healthy", .nat r.backends.healthy.toNat)]),
     ("traffic_enabled", .bool r.trafficEnabled),
     ("active_backend", (r.activeBackend.map Json.text).getD .null)]

/-- The record of the configuration under construction. -/
structure ConfigDraft where
  source : Option String
  version : Option String

/-- The record of the configuration. -/
def configShape (ε : Type) : Shape ε ConfigDraft ConfigHealth where
  name := "ConfigHealth"
  strict := false
  fields :=
    [⟨"source", fun path n d => do pure { d with source := some (← readText .text path n) }⟩,
     ⟨"version", fun path n d => do pure { d with version := some (← readText .text path n) }⟩]
  empty := ⟨none, none⟩
  finish := fun d =>
    match d.source, d.version with
    | none, _ => .error ("source", 0)
    | _, none => .error ("version", 1)
    | some source, some version => .ok ⟨source, version⟩

/-- The record of the backends under construction. -/
structure BackendsDraft where
  total : Option UInt64
  healthy : Option UInt64

/-- The record of the backends. -/
def backendsShape {ε : Type} (dialect : Dialect) : Shape ε BackendsDraft BackendsHealth where
  name := "BackendsHealth"
  strict := false
  fields :=
    [⟨"total", fun path n d => do pure { d with total := some (← readWord64 dialect path n) }⟩,
     ⟨"healthy", fun path n d => do pure { d with healthy := some (← readWord64 dialect path n) }⟩]
  empty := ⟨none, none⟩
  finish := fun d =>
    match d.total, d.healthy with
    | none, _ => .error ("total", 0)
    | _, none => .error ("healthy", 1)
    | some total, some healthy => .ok ⟨total, healthy⟩

/-- A report under construction. -/
structure Draft where
  status : Option String
  version : Option String
  commit : Option String
  uptimeSeconds : Option UInt64
  config : Option ConfigHealth
  backends : Option BackendsHealth
  trafficEnabled : Option Bool
  activeBackend : Option String

/-- A field of a draft that must be there. -/
def required {α : Type} (name : String) (position : Nat) : Option α → Except (String × Nat) α
  | some a => .ok a
  | none => .error (name, position)

/-- Turn a finished draft into a report. -/
def Draft.finish (d : Draft) : Except (String × Nat) HealthReport := do
  let status ← required "status" 0 d.status
  let version ← required "version" 1 d.version
  let commit ← required "commit" 2 d.commit
  let uptimeSeconds ← required "uptime_seconds" 3 d.uptimeSeconds
  let config ← required "config" 4 d.config
  let backends ← required "backends" 5 d.backends
  let trafficEnabled ← required "traffic_enabled" 6 d.trafficEnabled
  pure
    { status, version, commit, uptimeSeconds, config, backends, trafficEnabled
      activeBackend := d.activeBackend }

/-- The record of a report. -/
def shape {ε : Type} (dialect : Dialect) : Shape ε Draft HealthReport where
  name := "HealthResponse"
  strict := false
  fields :=
    [⟨"status", fun path n d => do pure { d with status := some (← readText .text path n) }⟩,
     ⟨"version", fun path n d => do pure { d with version := some (← readText .text path n) }⟩,
     ⟨"commit", fun path n d => do pure { d with commit := some (← readText .text path n) }⟩,
     ⟨"uptime_seconds", fun path n d => do
        pure { d with uptimeSeconds := some (← readWord64 dialect path n) }⟩,
     ⟨"config", fun path n d => do
        pure { d with config := some (← (configShape ε).read dialect path n) }⟩,
     ⟨"backends", fun path n d => do
        pure { d with backends := some (← (backendsShape dialect).read dialect path n) }⟩,
     ⟨"traffic_enabled", fun path n d => do
        pure { d with trafficEnabled := some (← readFlag path n) }⟩,
     ⟨"active_backend", fun path n d => do
        pure { d with activeBackend := ← readOptional (readText .text) path n }⟩]
  empty := ⟨none, none, none, none, none, none, none, none⟩
  finish := Draft.finish
  listed := 8

/-- Only the fields of the records are looked at. -/
def plan : Plan :=
  .members
    [("status", .whole), ("version", .whole), ("commit", .whole), ("uptime_seconds", .whole),
     ("config", .members [("source", .whole), ("version", .whole)]),
     ("backends", .members [("total", .whole), ("healthy", .whole)]),
     ("traffic_enabled", .whole), ("active_backend", .whole)]

/-- Read a report; a failure is described in words. -/
def parse (body : List UInt8) : Except String HealthReport := Json.readRecord shape plan body

end HealthReport

end GaleraProxy
