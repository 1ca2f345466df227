import GaleraProxy.Api.Credentials
import GaleraProxy.Api.HealthReport
import GaleraProxy.Api.Message
import GaleraProxy.Api.TrafficUpdate
import GaleraProxy.Cluster.Switch
import GaleraProxy.Config.Load
import GaleraProxy.Version

/-!
# The routes of the API

The administration API serves the traffic switch and the backends to those who show the credentials,
and the health and the metrics to everyone. A port of its own may serve the health alone. `respond`
decides about a request without changing anything: only a request to switch traffic leads to more
than a response.
-/

namespace GaleraProxy.Api

/-- What the API shows. `metrics` is absent if they are not recorded, and `commit` names the build.
-/
structure State where
  cluster : Cluster
  backends : List Backend
  credentials : Credentials
  metrics : Option Gauges
  source : String
  version : ConfigVersion
  commit : String
  uptimeSeconds : Nat

/-- The two sets of routes. -/
inductive Port where
  | admin
  | health
  deriving DecidableEq, Repr

/-- What can be requested. -/
inductive Route where
  | cluster
  | backends
  | health
  | metrics
  deriving DecidableEq, Repr

/-- The route at a path. -/
def Route.ofPath? (port : Port) (path : String) : Option Route :=
  match port, path with
  | _, "/health" => some .health
  | .admin, "/v0/cluster" => some .cluster
  | .admin, "/v0/backends" => some .backends
  | .admin, "/metrics" => some .metrics
  | _, _ => none

/-- Whether a route needs the credentials. -/
def Route.isProtected : Route → Bool
  | .cluster | .backends => true
  | .health | .metrics => false

/-- The methods of a route. -/
def Route.methods : Route → List String
  | .cluster => ["GET", "HEAD", "PATCH"]
  | _ => ["GET", "HEAD"]

/-- The greatest length that a request may declare for its body. -/
def maxBodyBytes : Nat := 65536

/-- The length that a request declares for its body. A plus sign may stand before the digits. -/
def declaredLength? (r : Request) : Option Nat := do
  let text ← (← r.header? "content-length") |> Credentials.headerText?
  let digits := match text with
    | '+' :: rest => rest
    | rest => rest
  (naturalOfText? 10 digits).filter (· < UInt64.size)

/-- The health of the proxy. -/
def health (s : State) : HealthReport :=
  { status := "healthy", version := programVersion, commit := s.commit
    uptimeSeconds := .ofNat s.uptimeSeconds
    config := ⟨s.source, s.version.short⟩
    backends :=
      ⟨.ofNat s.backends.length, .ofNat (s.backends.filter (·.healthy)).length⟩
    trafficEnabled := s.cluster.enabled
    activeBackend := s.cluster.active.map (·.name) }

/-- The exposition of the metrics: a blank line ends it. -/
def metricsText (g : Gauges) : String :=
  if g.lines.isEmpty then "" else "\n".intercalate g.lines ++ "\n\n"

/-- What a decided request leads to. -/
inductive Decision where
  | answer (response : Response)
  | toggle (enabled : Bool) (note : String)
  deriving DecidableEq, Repr

/-- The response to a request to show something. -/
def showRoute (time : Timestamp → String) (s : State) : Route → Response
  | .cluster => .json (s.cluster.toJson time)
  | .backends => .json (.list (s.backends.map Backend.toJson))
  | .health => .json (health s).toJson
  | .metrics =>
      match s.metrics with
      | some g => .withBody 200 "text/plain; version=0.0.4" (metricsText g)
      | none => .empty 404 []

/-- What a request with a method of its route leads to. -/
def handle (time : Timestamp → String) (s : State) (route : Route) (r : Request) : Decision :=
  if r.method = "PATCH" then
    match readUpdate (r.uri.query.getD "") with
    | .ok (enabled, note) => .toggle enabled note
    | .error e => .answer (.text 400 e.message)
  else if r.method = "HEAD" then .answer (showRoute time s route).headOnly
  else .answer (showRoute time s route)

/-- The response to those who do not show the credentials. -/
def unauthorized (headers : List (String × String)) : Response :=
  .empty 401 (headers ++ [("www-authenticate", "Basic realm=\"switchboard\"")])

/-- Whether a request shows the credentials in its first `Authorization` header. -/
def isAuthorized (s : State) (r : Request) : Bool :=
  (r.header? "authorization").any s.credentials.admits

/-- What a request to a route leads to. Those who do not show the credentials learn nothing but the
methods of the route. -/
def atRoute (time : Timestamp → String) (s : State) (route : Route) (r : Request) : Decision :=
  let allowed := route.methods.contains r.method
  let allow : List (String × String) :=
    if allowed then [] else [("allow", ",".intercalate route.methods)]
  if route.isProtected && !isAuthorized s r then .answer (unauthorized allow)
  else if allowed then handle time s route r
  else .answer (.empty 405 allow)

/-- The response where nothing stands at a path. -/
def notFound (path : String) : Response :=
  if path.startsWith "/" then ⟨404, [], ""⟩ else .empty 404 []

/-- What a request leads to. On the administration port a body that is declared too long is refused
before anything else is looked at. -/
def respond (time : Timestamp → String) (port : Port) (s : State) (r : Request) : Decision :=
  if port = .admin ∧ (declaredLength? r).any (maxBodyBytes < ·) then
    .answer (.text 413 "length limit exceeded")
  else
    match Route.ofPath? port r.uri.routePath with
    | some route => atRoute time s route r
    | none => .answer (notFound r.uri.routePath)

/-- Carry a request out while every traffic subscriber takes what it is handed: the response, the
cluster after it, the effects, and the flags that subscribers took. -/
def serve (time : Timestamp → String) (port : Port) (s : State) (now : Timestamp) (r : Request) :
    Response × Cluster × List Effect × List (Nat × Bool) :=
  match respond time port s r with
  | .answer response => (response, s.cluster, [], [])
  | .toggle enabled note =>
      let (cluster, effects, taken) := (s.cluster.beginToggle enabled note).complete now
      (.json (cluster.toJson time), cluster, effects, taken)

end GaleraProxy.Api
