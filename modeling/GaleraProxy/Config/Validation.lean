import GaleraProxy.Certificate.Pem
import GaleraProxy.Config.Model
import GaleraProxy.Error
import GaleraProxy.Host.Basic

/-!
# The rules a configuration keeps

A `Violation` names a rule and the place where it is broken. `Config.violations` lists all of them
in the order of the sections, so that no violation hides another, and `Config.validate` accepts a
configuration exactly when there are none. Warnings are about settings that are allowed but unlikely
to be meant, and the report is the summary of a valid configuration.
-/

namespace GaleraProxy

/-- The ports of a configuration that must not be zero. -/
inductive PortSetting where
  | proxy
  | inactive
  | api
  | health
  | backend (sectionName : String)
  | status (sectionName : String)
  deriving DecidableEq, Repr

/-- A rule of the configuration and where it is broken. -/
inductive Violation where
  | zeroPort (setting : PortSetting)
  | inactivePortClash (port : UInt16)
  | zeroHealthcheckTimeout
  | noBackends
  | emptyBackendName (sectionName : String)
  | duplicateBackendName (name : String)
  | badHost (sectionName : String) (reason : Host.Invalid)
  | emptyUsername
  | emptyPassword
  | missingServerName
  | missingCa
  | badCa (reason : Pem.Invalid)
  | zeroStatusLogInterval
  deriving DecidableEq, Repr

/-- The section and field of a port. -/
def PortSetting.place : PortSetting → String × String
  | .proxy => ("proxy", "port")
  | .inactive => ("proxy", "inactive_mysql_port")
  | .api => ("api", "port")
  | .health => ("(root)", "health_port")
  | .backend s => (s, "port")
  | .status s => (s, "status_port")

/-- What the operator is told about a violation. -/
def Violation.report : Violation → ValidationError
  | .zeroPort setting => ⟨setting.place.1, setting.place.2, "port must be non-zero", none⟩
  | .inactivePortClash port =>
      ⟨"proxy", "inactive_mysql_port",
        "inactive port " ++ toString port.toNat ++ " clashes with the active proxy port",
        some "remove inactive_mysql_port to disable the inactive proxy"⟩
  | .zeroHealthcheckTimeout =>
      ⟨"proxy", "healthcheck_timeout_millis", "timeout must be non-zero",
        some "the default is 5000"⟩
  | .noBackends => ⟨"proxy", "backends", "at least one backend must be defined", none⟩
  | .emptyBackendName s => ⟨s, "name", "backend name cannot be empty", none⟩
  | .duplicateBackendName name => ⟨name, "name", "duplicate backend name", none⟩
  | .badHost s reason => ⟨s, "host", reason.message, none⟩
  | .emptyUsername => ⟨"api", "username", "username cannot be empty", none⟩
  | .emptyPassword => ⟨"api", "password", "password cannot be empty", none⟩
  | .missingServerName =>
      ⟨"galera_agent_tls", "server_name", "server_name is required when TLS is enabled",
        some "set it to the name on the agent's certificate"⟩
  | .missingCa => ⟨"galera_agent_tls", "ca", "ca is required when TLS is enabled", none⟩
  | .badCa reason => ⟨"galera_agent_tls", "ca", reason.message, none⟩
  | .zeroStatusLogInterval =>
      ⟨"(root)", "status_log_interval_secs", "interval must be non-zero", some "the default is 30"⟩

/-- A violation where a condition holds. -/
def Violation.when (broken : Bool) (v : Violation) : List Violation :=
  if broken then [v] else []

/-- The section under which a backend's violations are reported. -/
def BackendConfig.sectionName (b : BackendConfig) (position : Nat) : String :=
  if b.name.isEmpty then "backends[" ++ toString position ++ "]" else b.name

/-- The violations of a backend, given the names before it. -/
def BackendConfig.violations (b : BackendConfig) (position : Nat) (seen : List String) :
    List Violation :=
  let s := b.sectionName position
  Violation.when b.name.isEmpty (.emptyBackendName s)
    ++ Violation.when (!b.name.isEmpty && seen.contains b.name) (.duplicateBackendName b.name)
    ++ (match Host.validate b.host with
        | .ok () => []
        | .error reason => [.badHost s reason])
    ++ Violation.when (b.port == 0) (.zeroPort (.backend s))
    ++ Violation.when (b.statusPort == 0) (.zeroPort (.status s))

/-- The violations of the backends from a position on. -/
def ProxyConfig.backendViolations : Nat → List String → List BackendConfig → List Violation
  | _, _, [] => []
  | position, seen, b :: rest =>
      b.violations position seen ++ backendViolations (position + 1) (b.name :: seen) rest

/-- The violations of the inactive port. -/
def ProxyConfig.inactiveViolations (p : ProxyConfig) : List Violation :=
  match p.inactivePort with
  | none => []
  | some port =>
      if port = 0 then [.zeroPort .inactive]
      else if port = p.port then [.inactivePortClash port] else []

/-- The violations of the proxy section. -/
def ProxyConfig.violations (p : ProxyConfig) : List Violation :=
  Violation.when (p.port == 0) (.zeroPort .proxy)
    ++ p.inactiveViolations
    ++ Violation.when (p.healthcheckTimeoutMillis == 0) .zeroHealthcheckTimeout
    ++ Violation.when p.backends.isEmpty .noBackends
    ++ ProxyConfig.backendViolations 0 [] p.backends

/-- The violations of the API section. -/
def ApiConfig.violations (a : ApiConfig) : List Violation :=
  Violation.when (a.port == 0) (.zeroPort .api)
    ++ Violation.when a.username.isEmpty .emptyUsername
    ++ Violation.when a.password.isEmpty .emptyPassword

/-- The violations of the authorities that are trusted. -/
def AgentTls.caViolations (t : AgentTls) : List Violation :=
  if t.ca.isEmpty then [.missingCa]
  else
    match Pem.validate t.ca with
    | .ok _ => []
    | .error reason => [.badCa reason]

/-- The violations of the TLS section, which only counts when TLS is enabled. -/
def AgentTls.violations (t : AgentTls) : List Violation :=
  if t.enabled then
    Violation.when t.serverName.isEmpty .missingServerName ++ t.caViolations
  else []

/-- The violations of the settings outside any section. -/
def Config.rootViolations (c : Config) : List Violation :=
  Violation.when (c.healthPort == some 0) (.zeroPort .health)
    ++ Violation.when (c.statusLogIntervalSecs == 0) .zeroStatusLogInterval

/-- All violations of a configuration. -/
def Config.violations (c : Config) : List Violation :=
  c.proxy.violations ++ c.api.violations ++ c.agentTls.violations ++ c.rootViolations

/-- The reports on all violations. -/
def Config.validationErrors (c : Config) : List ValidationError :=
  c.violations.map Violation.report

/-- Accept a configuration that breaks no rule. -/
def Config.validate (c : Config) : Except (List ValidationError) Unit :=
  match c.validationErrors with
  | [] => .ok ()
  | errors => .error errors

/-- Settings that are valid but probably not what the operator meant. -/
def Config.warnings (c : Config) : List String :=
  let backends := c.proxy.backends.length
  (if backends = 1 then
      ["only one backend is configured, so there is nothing to fail over to"] else [])
    ++ (if c.proxy.inactivePort.isSome ∧ backends < 2 then
          ["the inactive port needs a second backend to reach a different node"] else [])
    ++ (if c.healthPort = some c.api.port then
          ["health_port " ++ toString c.api.port.toNat
            ++ " equals the API port; /health is already served there"] else [])

/-- A path without the slashes at its front. -/
def withoutLeadingSlashes (path : String) : String :=
  String.ofList (path.toList.dropWhile (· == '/'))

/-- An address with a port. -/
def withPort (host : String) (port : UInt16) : String := host ++ ":" ++ toString port.toNat

/-- The line of the report about a backend. -/
def BackendConfig.summary (b : BackendConfig) : String :=
  "  " ++ b.name ++ "  -> " ++ withPort b.host b.port ++ " (status: "
    ++ toString b.statusPort.toNat ++ "/" ++ withoutLeadingSlashes b.statusEndpoint ++ ")"

/-- The summary of a valid configuration. -/
def Config.summary (c : Config) (path : String) : String :=
  let lines :=
    ["  " ++ toString c.proxy.backends.length ++ " backends\n",
     "  active proxy:   " ++ withPort c.bindAddress c.proxy.port]
      ++ (match c.proxy.inactivePort with
          | some port => ["  inactive proxy: " ++ withPort c.bindAddress port]
          | none => [])
      ++ ["  api:            " ++ withPort c.bindAddress c.api.port,
          "  healthcheck:    " ++ toString c.proxy.healthcheckTimeoutMillis.toNat ++ "ms timeout"
            ++ (if c.agentTls.enabled then ", tls" else ""),
          ""]
      ++ c.proxy.backends.map BackendConfig.summary
  path ++ " is valid\n" ++ "\n".intercalate lines

end GaleraProxy
