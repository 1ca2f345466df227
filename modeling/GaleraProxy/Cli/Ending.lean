import GaleraProxy.Api.HealthReport
import GaleraProxy.Cli.Command
import GaleraProxy.Config.Load
import GaleraProxy.Config.Template
import GaleraProxy.Http.Exchange
import GaleraProxy.Http.Status

/-!
# How commands end

`Ending` is what a command leaves behind: its exit status, its output, its complaints, and a file
that it writes. The commands `init` and `validate` depend on the files only, and `health` on what
the network makes of its request.
-/

namespace GaleraProxy.Cli

/-- The files as the commands see them: what is at a path, and why nothing can be written there. -/
structure Files where
  state : String → FileState
  refusal : String → Option String

/-- What a command leaves behind. -/
structure Ending where
  status : UInt8
  output : String
  complaints : String
  written : Option (String × String)
  deriving DecidableEq, Repr

namespace Ending

/-- A command that did what it should. -/
def success (output : String) : Ending := ⟨0, output, "", none⟩

/-- A command that was stopped by an error. -/
def failure (e : ProxyError) : Ending := ⟨1, "", "Error: " ++ e.message ++ "\n", none⟩

/-- A command line that could not be understood. -/
def refused (f : Fault) : Ending := ⟨2, "", "error: " ++ f.message ++ "\n", none⟩

/-- Put something before the output and the complaints. -/
def after (output complaints : String) (e : Ending) : Ending :=
  { e with output := output ++ e.output, complaints := complaints ++ e.complaints }

end Ending

/-- What is said to those who give no command. -/
def welcome : String :=
  "\n  switchboard v" ++ programVersion ++ ": active/passive proxy for MySQL Galera clusters\n\n"
    ++ "  No command provided. To get started:\n\n"
    ++ "    switchboard init                  Generate a starter config\n"
    ++ "    switchboard run                   Start the proxy (auto-detects ./switchboard.yaml)\n"
    ++ "    switchboard run -c galera.yaml    Start with a specific config file\n"
    ++ "    switchboard health                Check a running instance\n"
    ++ "    switchboard --help                See all commands and options\n\n"

/-- The path at which a starter configuration is written. -/
def InitOptions.path (o : InitOptions) : String :=
  o.output.getD (programName ++ "." ++ o.format.extension)

/-- Write a starter configuration. A file is only replaced by force. -/
def InitOptions.run (o : InitOptions) (files : Files) : Ending :=
  if (files.state o.path).isPresent && !o.force then .failure (.fileExists o.path)
  else
    match files.refusal o.path with
    | some detail => .failure (.inputOutput detail)
    | none =>
        { Ending.success ("Created " ++ o.path ++ "\n") with
          written := some (o.path, o.format.template o.full) }

/-- A violation as it is reported to programs. -/
def errorJson (e : ValidationError) : Json :=
  .object
    [("section", .text e.sectionName), ("field", .text e.field), ("message", .text e.message),
     ("suggestion", (e.suggestion.map Json.text).getD .null)]

/-- A line of JSON with sorted keys. -/
def jsonLine (v : Json) : String := v.sorted.render ++ "\n"

/-- The report on a configuration that breaks rules. -/
def brokenReport (format : ReportFormat) (path : String) (errors : List ValidationError) : Ending :=
  let failed := Ending.failure (.configValidation errors)
  match format with
  | .text =>
      failed.after "" ("✗ " ++ path ++ " has " ++ toString errors.length ++ " errors\n\n"
        ++ String.join (errors.map fun e => e.text ++ "\n"))
  | .json =>
      failed.after
        (jsonLine (.object [("valid", .bool false), ("errors", .list (errors.map errorJson))])) ""

/-- The report on a configuration that breaks no rule. -/
def validReport (format : ReportFormat) (path : String) (c : Config) : Ending :=
  match format with
  | .text =>
      (Ending.success ("✓ " ++ c.summary path ++ "\n")).after ""
        (String.join (c.warnings.map fun w => "  warning: " ++ w ++ "\n"))
  | .json =>
      .success (jsonLine (.object
        [("valid", .bool true), ("backends", .list (c.proxy.backends.map fun b => .text b.name)),
         ("proxy_port", .nat c.proxy.port.toNat),
         ("inactive_proxy_port", (c.proxy.inactivePort.map fun p => Json.nat p.toNat).getD .null),
         ("api_port", .nat c.api.port.toNat), ("warnings", .list (c.warnings.map .text))]))

/-- Validate a configuration. -/
def ValidateOptions.run (o : ValidateOptions) (files : Files) : Ending :=
  match Config.check o.config (files.state o.config) with
  | .error e => .failure e
  | .ok (c, []) => validReport o.format o.config c
  | .ok (_, errors) => brokenReport o.format o.config errors

/-- The milliseconds for which a health check waits. -/
def healthTimeoutMillis : Nat := 10000

/-- The URL of an instance's health. -/
def HealthOptions.healthUrl (o : HealthOptions) : String :=
  String.ofList (o.url.toList.reverse.dropWhile (· == '/')).reverse ++ "/health"

/-- Whether a status tells success. -/
def isSuccess (status : Nat) : Bool := 200 ≤ status && status < 300

/-- A time of running in hours, minutes and seconds. -/
def uptimeText (seconds : Nat) : String :=
  let part (n : Nat) (unit : String) : String := toString n ++ unit
  let hours := seconds / 3600
  let minutes := seconds % 3600 / 60
  " ".intercalate (
    (if 0 < hours then [part hours "h"] else [])
      ++ (if 0 < hours ∨ 0 < minutes then [part minutes "m"] else [])
      ++ [part (seconds % 60) "s"])

/-- The health of an instance as it is shown to people. -/
def healthText (url : String) (r : HealthReport) : String :=
  "✓ switchboard is healthy (" ++ url ++ ")\n"
    ++ "  version:        " ++ r.version ++ " (" ++ r.commit ++ ")\n"
    ++ "  uptime:         " ++ uptimeText r.uptimeSeconds.toNat ++ "\n"
    ++ "  config source:  " ++ r.config.source ++ "\n"
    ++ "  config version: " ++ r.config.version ++ "\n"
    ++ "  backends:       " ++ toString r.backends.healthy.toNat ++ " healthy of "
    ++ toString r.backends.total.toNat ++ "\n"
    ++ "  active backend: " ++ r.activeBackend.getD "none" ++ "\n"
    ++ "  traffic:        " ++ (if r.trafficEnabled then "enabled" else "disabled") ++ "\n"

/-- Only servers without TLS are asked for their health. -/
def plainOnly (network : Http.Uri → Http.Exchange) (u : Http.Uri) : Http.Exchange :=
  if u.scheme.map lowerAscii = some "http" then network u else .unreachable

/-- What is shown of the response of an instance. -/
def HealthOptions.show (o : HealthOptions) (body : List UInt8) : Ending :=
  let whole := Utf8.decodeLossy body ++ "\n"
  if o.json then .success whole
  else
    match HealthReport.parse body with
    | .ok r => .success (healthText o.url r)
    | .error detail =>
        (Ending.success whole).after "" ("Failed to parse health response: " ++ detail ++ "\n")

/-- Ask an instance for its health. -/
def HealthOptions.run (o : HealthOptions) (network : Http.Uri → Http.Exchange) : Ending :=
  match Http.exchange (plainOnly network) o.healthUrl with
  | .error fault => .failure (fault.toError o.healthUrl healthTimeoutMillis)
  | .ok answer =>
      match answer.body with
      | .error detail => .failure (.httpRequest detail)
      | .ok body =>
          if isSuccess answer.status then o.show body
          else .failure (.healthCheckFailed (Http.statusText answer.status))

/-- The line that shows the version of the program or of a command. -/
def versionLine (name : String) : String := name ++ " " ++ programVersion ++ "\n"

/-- How an invocation ends that does not start the proxy. `help` is the text of the help for a
command. -/
def Invocation.ending (files : Files) (network : Http.Uri → Http.Exchange)
    (help : String → String) : Invocation → Ending
  | .refused f => .refused f
  | .help name => .success (help name)
  | .version name => .success (versionLine name)
  | .command (.init o) => o.run files
  | .command (.validate o) => o.run files
  | .command (.health o) => o.run network
  | .command .welcome | .command (.run _) => .success welcome

end GaleraProxy.Cli
