import GaleraProxy.Config.Model
import GaleraProxy.Document.Record

/-!
# The configuration language

The records of a configuration document: which keys each section knows, which of them are required,
and what stands for an absent one. `configShape` is the root; it does not depend on the notation
that the document is written in.
-/

namespace GaleraProxy.Config

open Document

variable {ε : Type}

/-- A backend under construction. -/
structure BackendDraft where
  name : Option String
  host : Option String
  port : Option UInt16
  statusPort : Option UInt16
  statusEndpoint : String

/-- The record of a backend. -/
def backendShape (dialect : Dialect) : Shape ε BackendDraft BackendConfig where
  name := "BackendConfig"
  strict := true
  fields :=
    [⟨"name", fun path n d => do pure { d with name := some (← readText .text path n) }⟩,
     ⟨"host", fun path n d => do pure { d with host := some (← readText .text path n) }⟩,
     ⟨"port", fun path n d => do pure { d with port := some (← readWord16 dialect path n) }⟩,
     ⟨"status_port", fun path n d => do
        pure { d with statusPort := some (← readWord16 dialect path n) }⟩,
     ⟨"status_endpoint", fun path n d => do
        pure { d with statusEndpoint := ← readText .text path n }⟩]
  empty :=
    { name := none, host := none, port := none, statusPort := none,
      statusEndpoint := defaultStatusEndpoint }
  finish := fun d =>
    match d.name, d.host, d.port, d.statusPort with
    | none, _, _, _ => .error ("name", 0)
    | _, none, _, _ => .error ("host", 1)
    | _, _, none, _ => .error ("port", 2)
    | _, _, _, none => .error ("status_port", 3)
    | some name, some host, some port, some statusPort =>
        .ok { name, host, port, statusPort, statusEndpoint := d.statusEndpoint }

/-- A proxy section under construction. -/
structure ProxyDraft where
  port : Option UInt16
  inactivePort : Option UInt16
  healthcheckTimeoutMillis : UInt64
  shutdownDelaySeconds : UInt64
  backends : Option (List BackendConfig)

/-- The record of the proxy section. -/
def proxyShape (dialect : Dialect) : Shape ε ProxyDraft ProxyConfig where
  name := "ProxyConfig"
  strict := true
  fields :=
    [⟨"port", fun path n d => do pure { d with port := some (← readWord16 dialect path n) }⟩,
     ⟨"inactive_mysql_port", fun path n d => do
        pure { d with inactivePort := ← readOptional (readWord16 dialect) path n }⟩,
     ⟨"healthcheck_timeout_millis", fun path n d => do
        pure { d with healthcheckTimeoutMillis := ← readWord64 dialect path n }⟩,
     ⟨"shutdown_delay_seconds", fun path n d => do
        pure { d with shutdownDelaySeconds := ← readWord64 dialect path n }⟩,
     ⟨"backends", fun path n d => do
        let backends ← readList dialect ((backendShape dialect).read dialect) path n
        pure { d with backends := some backends }⟩]
  empty :=
    { port := none, inactivePort := none, healthcheckTimeoutMillis := defaultHealthcheckTimeout,
      shutdownDelaySeconds := 0, backends := none }
  finish := fun d =>
    match d.port, d.backends with
    | none, _ => .error ("port", 0)
    | _, none => .error ("backends", 4)
    | some port, some backends =>
        .ok { port, inactivePort := d.inactivePort,
              healthcheckTimeoutMillis := d.healthcheckTimeoutMillis,
              shutdownDelaySeconds := d.shutdownDelaySeconds, backends }

/-- An API section under construction. -/
structure ApiDraft where
  port : Option UInt16
  username : String
  password : String

/-- The record of the API section. -/
def apiShape (dialect : Dialect) : Shape ε ApiDraft ApiConfig where
  name := "ApiConfig"
  strict := true
  fields :=
    [⟨"port", fun path n d => do pure { d with port := some (← readWord16 dialect path n) }⟩,
     ⟨"username", fun path n d => do pure { d with username := ← readText .text path n }⟩,
     ⟨"password", fun path n d => do pure { d with password := ← readText .text path n }⟩]
  empty := { port := none, username := "", password := "" }
  finish := fun d =>
    match d.port with
    | none => .error ("port", 0)
    | some port => .ok { port, username := d.username, password := d.password }

/-- The record of the TLS section, every field of which has a default. -/
def tlsShape (ε : Type) : Shape ε AgentTls AgentTls where
  name := "GaleraAgentTls"
  strict := true
  fields :=
    [⟨"enabled", fun path n d => do pure { d with enabled := ← readFlag path n }⟩,
     ⟨"server_name", fun path n d => do pure { d with serverName := ← readText .text path n }⟩,
     ⟨"ca", fun path n d => do pure { d with ca := ← readText .text path n }⟩]
  empty := defaultTls
  finish := .ok

/-- A configuration under construction. -/
structure ConfigDraft where
  bindAddress : String
  proxy : Option ProxyConfig
  api : Option ApiConfig
  healthPort : Option UInt16
  agentTls : AgentTls
  statusLogIntervalSecs : UInt64

/-- The record at the root of a configuration document. -/
def configShape (dialect : Dialect) : Shape ε ConfigDraft Config where
  name := "Config"
  strict := true
  fields :=
    [⟨"bind_address", fun path n d => do pure { d with bindAddress := ← readText .text path n }⟩,
     ⟨"proxy", fun path n d => do
        pure { d with proxy := some (← (proxyShape dialect).read dialect path n) }⟩,
     ⟨"api", fun path n d => do
        pure { d with api := some (← (apiShape dialect).read dialect path n) }⟩,
     ⟨"health_port", fun path n d => do
        pure { d with healthPort := ← readOptional (readWord16 dialect) path n }⟩,
     ⟨"galera_agent_tls", fun path n d => do
        pure { d with agentTls := ← (tlsShape ε).read dialect path n }⟩,
     ⟨"status_log_interval_secs", fun path n d => do
        pure { d with statusLogIntervalSecs := ← readWord64 dialect path n }⟩]
  empty :=
    { bindAddress := defaultBindAddress, proxy := none, api := none, healthPort := none,
      agentTls := defaultTls, statusLogIntervalSecs := defaultStatusLogInterval }
  finish := fun d =>
    match d.proxy, d.api with
    | none, _ => .error ("proxy", 1)
    | _, none => .error ("api", 2)
    | some proxy, some api =>
        .ok { bindAddress := d.bindAddress, proxy, api, healthPort := d.healthPort,
              agentTls := d.agentTls, statusLogIntervalSecs := d.statusLogIntervalSecs }

end GaleraProxy.Config
