import GaleraProxy.Json.Value
import GaleraProxy.Status.Report
import GaleraProxy.Text.Quoted

/-!
# Log events

`Event` lists what the proxy tells its operator. An event has a level, a text and fields; an absent
optional field is left out.
-/

namespace GaleraProxy

/-- How much an event matters. -/
inductive LogLevel where
  | trace
  | debug
  | info
  | warn
  | error
  deriving DecidableEq, Repr

/-- The name of a level in log lines. -/
def LogLevel.label : LogLevel → String
  | .trace => "TRACE"
  | .debug => "DEBUG"
  | .info => "INFO"
  | .warn => "WARN"
  | .error => "ERROR"

/-- The rank of a level, the most important first. -/
def LogLevel.rank : LogLevel → Nat
  | .error => 0
  | .warn => 1
  | .info => 2
  | .debug => 3
  | .trace => 4

/-- What is logged when the proxy has started. -/
structure StartSummary where
  version : String
  commit : String
  proxyPort : UInt16
  inactivePort : Option UInt16
  apiPort : UInt16
  healthPort : Option UInt16
  backends : Nat
  deriving DecidableEq, Repr

/-- What the proxy tells its operator. -/
inductive Event where
  | becameHealthy (backend host : String)
  | becameUnhealthy (backend host : String)
  | severing (backend : String) (sessions : Nat)
  | sessionFailed (error : String)
  | trafficUpdated (enabled : Bool) (note : String)
  | monitorStarted (backends intervalMillis : Nat) (lowest tls : Bool)
  | activeChanged (before after : Option String)
  | checkRejected (backend url reason : String) (streak : Nat)
  | checkFailed (backend : String) (errors : List String) (streak : Nat)
  | pollCrashed (error : String)
  | monitorStopped
  | proxyListening (address : String)
  | routing (backend : Option String)
  | trafficToggled (enabled : Bool)
  | draining (delaySeconds : Nat)
  | proxyStopped
  | statusLoggerStarted (intervalSeconds backends : Nat)
  | status (report : StatusReport)
  | statusLoggerStopped
  | configLoaded (path source version : String)
  | configWarning (text : String)
  | httpListening (address : String)
  | started (summary : StartSummary)
  | signalled
  | partFailed (reason : String)
  | stopped
  deriving DecidableEq, Repr

namespace Event

/-- The level of an event. -/
def level : Event → LogLevel
  | sessionFailed _ | checkRejected .. | checkFailed .. | pollCrashed _ | partFailed _ => .error
  | configWarning _ => .warn
  | configLoaded .. => .debug
  | _ => .info

/-- The text of an event. -/
def message : Event → String
  | becameHealthy .. => "previously unhealthy backend became healthy"
  | becameUnhealthy .. => "previously healthy backend became unhealthy"
  | severing .. => "severing all connections to backend"
  | sessionFailed _ => "failed to bridge client connection"
  | trafficUpdated .. => "cluster traffic updated"
  | monitorStarted .. => "cluster monitor started"
  | activeChanged .. => "active backend changed"
  | checkRejected .. => "backend health check rejected"
  | checkFailed .. => "backend health check failed"
  | pollCrashed _ => "health poll task failed"
  | monitorStopped => "cluster monitor stopped"
  | proxyListening _ => "proxy listening"
  | routing _ => "proxy routing to new active backend"
  | trafficToggled _ => "proxy traffic toggled"
  | draining _ => "shutdown requested, proxy keeps accepting until the delay expires"
  | proxyStopped => "proxy stopped"
  | statusLoggerStarted .. => "status logger starting"
  | status _ => "status update"
  | statusLoggerStopped => "status logger received shutdown signal"
  | configLoaded .. => "config loaded"
  | configWarning _ => "config warning"
  | httpListening _ => "http listening"
  | started _ => "switchboard started"
  | signalled => "received SIGTERM"
  | partFailed _ => "component task failed"
  | stopped => "switchboard stopped"

/-- A number of sessions, backends or other things. -/
def count (key : String) (n : Nat) : String × Json := (key, .nat n)

/-- A text. -/
def word (key value : String) : String × Json := (key, .text value)

/-- A text that may be absent. -/
def optional (key : String) (value : Option Json) : List (String × Json) :=
  match value with
  | some v => [(key, v)]
  | none => []

/-- The name of a backend, or of its absence. -/
def nameOrNone (name : Option String) : String := name.getD "none"

/-- The fields of a status report. The list of unhealthy backends is left out if it is empty. -/
def reportFields (r : StatusReport) : List (String × Json) :=
  [count "total_backends" r.total, count "healthy_backends" r.healthy]
    ++ (if r.unhealthy.isEmpty then []
        else [word "unhealthy_backends" (Text.quotedList r.unhealthy)])
    ++ [count "total_connections" r.sessions, word "active_backend" r.active]
    ++ (match r.failover with
        | some f =>
            [count "total_failovers" f.count, word "last_failover_at" f.time.text,
             word "last_failover_from" f.replaced]
        | none => [])

/-- The fields of an event. -/
def fields : Event → List (String × Json)
  | becameHealthy backend host | becameUnhealthy backend host =>
      [word "backend" backend, word "host" host]
  | severing backend sessions => [word "backend" backend, count "sessions" sessions]
  | sessionFailed error | pollCrashed error | partFailed error => [word "error" error]
  | trafficUpdated enabled note => [("traffic_enabled", .bool enabled), word "message" note]
  | monitorStarted backends interval lowest tls =>
      [count "backends" backends, count "interval_ms" interval,
       ("use_lowest_index", .bool lowest), ("use_tls", .bool tls)]
  | activeChanged before after =>
      [word "from" (nameOrNone before), word "to" (nameOrNone after)]
  | checkRejected backend url reason streak =>
      [word "backend" backend, word "url" url, word "reason" reason,
       count "consecutive_unhealthy_checks" streak]
  | checkFailed backend errors streak =>
      [word "backend" backend, word "errors" (Text.quotedList errors),
       count "consecutive_unhealthy_checks" streak]
  | proxyListening address | httpListening address => [word "addr" address]
  | routing backend => [word "backend" (nameOrNone backend)]
  | trafficToggled enabled => [("traffic_enabled", .bool enabled)]
  | draining delay => [count "delay_secs" delay]
  | statusLoggerStarted interval backends =>
      [count "interval_secs" interval, count "backend_count" backends]
  | status report => reportFields report
  | configLoaded path source version =>
      [word "path" path, word "source" source, word "version" version]
  | configWarning text => [word "warning" text]
  | started s =>
      [word "version" s.version, word "commit" s.commit, count "proxy_port" s.proxyPort.toNat]
        ++ optional "inactive_proxy_port" (s.inactivePort.map fun p => .nat p.toNat)
        ++ [count "api_port" s.apiPort.toNat]
        ++ optional "health_port" (s.healthPort.map fun p => .nat p.toNat)
        ++ [count "backends" s.backends]
  | monitorStopped | proxyStopped | statusLoggerStopped | signalled | stopped => []

end Event

end GaleraProxy
