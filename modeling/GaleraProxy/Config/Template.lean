import GaleraProxy.Config.Parse

/-!
# Starter configurations

For every notation there is a short configuration to begin with, and one that shows every setting.
-/

namespace GaleraProxy

namespace Template

/-- A text of whole lines. -/
def ofLines (lines : List String) : String := "\n".intercalate lines ++ "\n"

/-- The member that names where an agent serves its status. -/
def endpointMember : String := ", \"status_endpoint\": \"api/v1/status\""

/-- The line of a backend in a JSON configuration, with members beyond those it needs. -/
def jsonBackend (n : Nat) (more : String) : String :=
  "      \x7b \"name\": \"mysql-" ++ toString n ++ "\", \"host\": \"10.0.0.1" ++ toString n
    ++ "\", \"port\": 3306, \"status_port\": 9200" ++ more ++ " \x7d"

/-- The short YAML configuration. -/
def yamlShort : String :=
  ofLines
    ["# Switchboard config: https://github.com/julienandreu/switchboard",
     "",
     "proxy:",
     "  port: 3306",
     "  backends:",
     "    - name: \"mysql-0\"",
     "      host: \"10.0.0.10\"",
     "      port: 3306",
     "      status_port: 9200",
     "",
     "api:",
     "  port: 8080",
     "  username: \"admin\"",
     "  password: \"changeme\""]

/-- The YAML configuration with every setting. -/
def yamlFull : String :=
  ofLines
    ["# Switchboard config: https://github.com/julienandreu/switchboard",
     "#",
     "# Values shown as comments are defaults. Uncomment and modify as needed.",
     "",
     "# bind_address: \"0.0.0.0\"      # Address every listener binds to",
     "# health_port: 8081            # Extra unauthenticated /health listener",
     "# status_log_interval_secs: 30 # How often backend status is logged",
     "",
     "proxy:",
     "  port: 3306                   # Clients reach the active (primary) node here",
     "  inactive_mysql_port: 3307    # Optional port that follows a secondary node",
     "  # healthcheck_timeout_millis: 5000   # Agent timeout; polling runs 5x faster",
     "  # shutdown_delay_seconds: 0          # Keep accepting this long after SIGTERM",
     "  backends:",
     "    - name: \"mysql-0\"",
     "      host: \"10.0.0.10\"",
     "      port: 3306",
     "      status_port: 9200",
     "      # status_endpoint: \"api/v1/status\"",
     "    - name: \"mysql-1\"",
     "      host: \"10.0.0.11\"",
     "      port: 3306",
     "      status_port: 9200",
     "    - name: \"mysql-2\"",
     "      host: \"10.0.0.12\"",
     "      port: 3306",
     "      status_port: 9200",
     "",
     "api:",
     "  port: 8080",
     "  username: \"admin\"            # Overridden by SWITCHBOARD_API_USERNAME",
     "  password: \"changeme\"         # Overridden by SWITCHBOARD_API_PASSWORD",
     "",
     "# Poll the Galera agent over HTTPS",
     "# galera_agent_tls:",
     "#   enabled: true",
     "#   server_name: \"galera-agent\"",
     "#   ca: |",
     "#     -----BEGIN CERTIFICATE-----",
     "#     ...",
     "#     -----END CERTIFICATE-----"]

/-- The short JSON configuration. -/
def jsonShort : String :=
  ofLines
    ["\x7b",
     "  \"proxy\": \x7b",
     "    \"port\": 3306,",
     "    \"backends\": [",
     jsonBackend 0 "",
     "    ]",
     "  \x7d,",
     "  \"api\": \x7b",
     "    \"port\": 8080,",
     "    \"username\": \"admin\",",
     "    \"password\": \"changeme\"",
     "  \x7d",
     "\x7d"]

/-- The JSON configuration with every setting. -/
def jsonFull : String :=
  ofLines
    ["\x7b",
     "  \"bind_address\": \"0.0.0.0\",",
     "  \"health_port\": 8081,",
     "  \"status_log_interval_secs\": 30,",
     "  \"proxy\": \x7b",
     "    \"port\": 3306,",
     "    \"inactive_mysql_port\": 3307,",
     "    \"healthcheck_timeout_millis\": 5000,",
     "    \"shutdown_delay_seconds\": 0,",
     "    \"backends\": [",
     jsonBackend 0 endpointMember ++ ",",
     jsonBackend 1 endpointMember ++ ",",
     jsonBackend 2 endpointMember,
     "    ]",
     "  \x7d,",
     "  \"api\": \x7b",
     "    \"port\": 8080,",
     "    \"username\": \"admin\",",
     "    \"password\": \"changeme\"",
     "  \x7d,",
     "  \"galera_agent_tls\": \x7b",
     "    \"enabled\": false",
     "  \x7d",
     "\x7d"]

/-- The short TOML configuration. -/
def tomlShort : String :=
  ofLines
    ["# Switchboard config: https://github.com/julienandreu/switchboard",
     "",
     "[proxy]",
     "port = 3306",
     "",
     "[[proxy.backends]]",
     "name = \"mysql-0\"",
     "host = \"10.0.0.10\"",
     "port = 3306",
     "status_port = 9200",
     "",
     "[api]",
     "port = 8080",
     "username = \"admin\"",
     "password = \"changeme\""]

/-- The TOML configuration with every setting. -/
def tomlFull : String :=
  ofLines
    ["# Switchboard config: https://github.com/julienandreu/switchboard",
     "#",
     "# Values shown as comments are defaults. Uncomment and modify as needed.",
     "",
     "# bind_address = \"0.0.0.0\"",
     "# health_port = 8081",
     "# status_log_interval_secs = 30",
     "",
     "[proxy]",
     "port = 3306",
     "inactive_mysql_port = 3307",
     "# healthcheck_timeout_millis = 5000",
     "# shutdown_delay_seconds = 0",
     "",
     "[[proxy.backends]]",
     "name = \"mysql-0\"",
     "host = \"10.0.0.10\"",
     "port = 3306",
     "status_port = 9200",
     "# status_endpoint = \"api/v1/status\"",
     "",
     "[[proxy.backends]]",
     "name = \"mysql-1\"",
     "host = \"10.0.0.11\"",
     "port = 3306",
     "status_port = 9200",
     "",
     "[[proxy.backends]]",
     "name = \"mysql-2\"",
     "host = \"10.0.0.12\"",
     "port = 3306",
     "status_port = 9200",
     "",
     "[api]",
     "port = 8080",
     "username = \"admin\"",
     "password = \"changeme\"",
     "",
     "# [galera_agent_tls]",
     "# enabled = true",
     "# server_name = \"galera-agent\"",
     "# ca = \"\"\"",
     "# -----BEGIN CERTIFICATE-----",
     "# ...",
     "# -----END CERTIFICATE-----",
     "# \"\"\""]

end Template

/-- The starter configuration in a notation, with every setting if it is to be full. -/
def ConfigFormat.template (format : ConfigFormat) (full : Bool) : String :=
  match format, full with
  | .yaml, false => Template.yamlShort
  | .yaml, true => Template.yamlFull
  | .json, false => Template.jsonShort
  | .json, true => Template.jsonFull
  | .toml, false => Template.tomlShort
  | .toml, true => Template.tomlFull

end GaleraProxy
