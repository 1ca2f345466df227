import GaleraProxy.Json.Value
import GaleraProxy.Time.Duration

/-!
# The configuration

`Config` is what an operator writes down: where to listen, which backends there are, who may use the
administration API, and how the agents are reached. `Config.toDocument` is its written form, which
leaves out every optional setting that has its default.
-/

namespace GaleraProxy

/-- One Galera node: its name, its data address, and where its agent reports its status. -/
structure BackendConfig where
  name : String
  host : String
  port : UInt16
  statusPort : UInt16
  statusEndpoint : String
  deriving DecidableEq, Repr

/-- The proxy ports, the timing of health checks and of shutdown, and the backends. -/
structure ProxyConfig where
  port : UInt16
  inactivePort : Option UInt16
  healthcheckTimeoutMillis : UInt64
  shutdownDelaySeconds : UInt64
  backends : List BackendConfig
  deriving DecidableEq, Repr

/-- The administration API and its credentials. -/
structure ApiConfig where
  port : UInt16
  username : String
  password : String
  deriving DecidableEq, Repr

/-- How the agents are reached over TLS: the name on their certificates and the bundle of
authorities that is trusted. -/
structure AgentTls where
  enabled : Bool
  serverName : String
  ca : String
  deriving DecidableEq, Repr

/-- A complete configuration. -/
structure Config where
  bindAddress : String
  proxy : ProxyConfig
  api : ApiConfig
  healthPort : Option UInt16
  agentTls : AgentTls
  statusLogIntervalSecs : UInt64
  deriving DecidableEq, Repr

namespace Config

/-- Every listener binds to all addresses unless told otherwise. -/
def defaultBindAddress : String := "0.0.0.0"

/-- An agent has five seconds to answer unless told otherwise. -/
def defaultHealthcheckTimeout : UInt64 := 5000

/-- The status is logged every half minute unless told otherwise. -/
def defaultStatusLogInterval : UInt64 := 30

/-- Where an agent serves its status unless told otherwise. -/
def defaultStatusEndpoint : String := "api/v1/status"

/-- Agents are reached without TLS unless told otherwise. -/
def defaultTls : AgentTls := { enabled := false, serverName := "", ca := "" }

/-- A member that is left out where it has its default. -/
def memberUnless (isDefault : Bool) (key : String) (value : Json) : List (String × Json) :=
  if isDefault then [] else [(key, value)]

/-- The number of a port. -/
def portJson (p : UInt16) : Json := .nat p.toNat

/-- A 64-bit number. -/
def wordJson (n : UInt64) : Json := .nat n.toNat

end Config

/-- A port that may be absent. -/
def Config.optionalPortJson (p : Option UInt16) : Json := (p.map portJson).getD .null

/-- The written form of a backend. -/
def BackendConfig.toDocument (b : BackendConfig) : Json :=
  .object
    [("name", .text b.name), ("host", .text b.host), ("port", Config.portJson b.port),
     ("status_port", Config.portJson b.statusPort), ("status_endpoint", .text b.statusEndpoint)]

/-- The written form of the proxy section. -/
def ProxyConfig.toDocument (p : ProxyConfig) : Json :=
  .object (
    [("port", Config.portJson p.port)]
      ++ (match p.inactivePort with
          | none => []
          | some port => [("inactive_mysql_port", Config.portJson port)])
      ++ Config.memberUnless (p.healthcheckTimeoutMillis == Config.defaultHealthcheckTimeout)
          "healthcheck_timeout_millis" (Config.wordJson p.healthcheckTimeoutMillis)
      ++ Config.memberUnless (p.shutdownDelaySeconds == 0)
          "shutdown_delay_seconds" (Config.wordJson p.shutdownDelaySeconds)
      ++ [("backends", .list (p.backends.map BackendConfig.toDocument))])

/-- The written form of the API section. -/
def ApiConfig.toDocument (a : ApiConfig) : Json :=
  .object [("port", Config.portJson a.port), ("username", .text a.username),
    ("password", .text a.password)]

/-- The written form of the TLS section. -/
def AgentTls.toDocument (t : AgentTls) : Json :=
  .object (
    [("enabled", .bool t.enabled)]
      ++ Config.memberUnless t.serverName.isEmpty "server_name" (.text t.serverName)
      ++ Config.memberUnless t.ca.isEmpty "ca" (.text t.ca))

/-- The written form of a configuration. -/
def Config.toDocument (c : Config) : Json :=
  .object (
    Config.memberUnless (c.bindAddress == Config.defaultBindAddress)
        "bind_address" (.text c.bindAddress)
      ++ [("proxy", c.proxy.toDocument), ("api", c.api.toDocument)]
      ++ (match c.healthPort with
          | none => []
          | some port => [("health_port", Config.portJson port)])
      ++ Config.memberUnless (c.agentTls == Config.defaultTls)
          "galera_agent_tls" c.agentTls.toDocument
      ++ Config.memberUnless (c.statusLogIntervalSecs == Config.defaultStatusLogInterval)
          "status_log_interval_secs" (Config.wordJson c.statusLogIntervalSecs))

/-- The written form of a configuration with every setting spelled out. -/
def Config.toFullDocument (c : Config) : Json :=
  .object
    [("bind_address", .text c.bindAddress),
     ("proxy", .object
        [("port", portJson c.proxy.port),
         ("inactive_mysql_port", optionalPortJson c.proxy.inactivePort),
         ("healthcheck_timeout_millis", wordJson c.proxy.healthcheckTimeoutMillis),
         ("shutdown_delay_seconds", wordJson c.proxy.shutdownDelaySeconds),
         ("backends", .list (c.proxy.backends.map BackendConfig.toDocument))]),
     ("api", c.api.toDocument),
     ("health_port", optionalPortJson c.healthPort),
     ("galera_agent_tls", .object
        [("enabled", .bool c.agentTls.enabled), ("server_name", .text c.agentTls.serverName),
         ("ca", .text c.agentTls.ca)]),
     ("status_log_interval_secs", wordJson c.statusLogIntervalSecs)]

/-! ## The durations of a configuration -/

namespace Config

/-- How long an agent has to answer. -/
def healthcheckTimeout (c : Config) : Duration := .ofMillis c.proxy.healthcheckTimeoutMillis.toNat

/-- How long the proxy goes on after a request to shut down. -/
def shutdownDelay (c : Config) : Duration := .ofSeconds c.proxy.shutdownDelaySeconds.toNat

/-- How long it takes from one status report to the next. -/
def statusLogInterval (c : Config) : Duration := .ofSeconds c.statusLogIntervalSecs.toNat

end Config

end GaleraProxy
