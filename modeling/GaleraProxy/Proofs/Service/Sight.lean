import GaleraProxy.Proofs.Backend.Guests
import GaleraProxy.Proofs.Service.Quietness

/-!
# What a port makes of the service

A `Sight` is what the clients of a port can tell of the service: the lane of the port and the guests
that its clients are, but none of the numbers that depend on who else uses the backends. What is
open through a port can be told of its sight: `standing_of_sight`.
-/

namespace GaleraProxy

/-- A sever without the bridges that it has yet to close. -/
def Sever.unnumbered : Sever → Sever
  | .closing _ => .closing []
  | .raised => .raised
  | .returned => .returned

/-- The bridges that a sever has yet to close. -/
def Sever.left : Sever → List BridgeId
  | .closing ids => ids
  | .raised | .returned => []

namespace Runner

/-- The sever that a runner is at. -/
def sever? (r : Runner) (backends : List Backend) : Option Sever :=
  match r.task with
  | .idle => none
  | .severing i k _ => backends[i]?.bind fun b => b.severs[k]?

/-- The bridges at the backend at a place that a runner has yet to close. -/
def held (r : Runner) (backends : List Backend) (j : Nat) : List BridgeId :=
  if r.severing? = some j then ((r.sever? backends).map Sever.left).getD [] else []

/-- A runner without the number of the sever that it is at. -/
def unnumbered (r : Runner) : Runner :=
  match r.task with
  | .idle => r
  | .severing i _ change => { r with task := .severing i 0 change }

variable {r : Runner} {backends : List Backend}

@[simp] theorem unnumbered_active (r : Runner) : r.unnumbered.active = r.active := by
  unfold unnumbered
  split <;> rfl

@[simp] theorem unnumbered_traffic (r : Runner) :
    r.unnumbered.trafficEnabled = r.trafficEnabled := by
  unfold unnumbered
  split <;> rfl

@[simp] theorem unnumbered_is_running (r : Runner) : r.unnumbered.isRunning = r.isRunning := by
  unfold unnumbered
  split <;> rfl

@[simp] theorem unnumbered_is_ready (r : Runner) : r.unnumbered.isReady = r.isReady := by
  rw [Bool.eq_iff_iff]
  cases htask : r.task with
  | idle => simp [unnumbered, htask]
  | severing i k change => simp [isReady, unnumbered, htask]

@[simp] theorem unnumbered_route (r : Runner) : r.unnumbered.route = r.route := by
  simp [route]

@[simp] theorem unnumbered_severed (r : Runner) (change : Change) :
    r.unnumbered.severed? change = r.severed? change := by
  cases change <;> simp [severed?]

theorem unnumbered_of_idle (h : r.task = .idle) : r.unnumbered = r := by
  simp [unnumbered, h]

theorem held_of_idle (h : r.task = .idle) (backends : List Backend) (j : Nat) :
    r.held backends j = [] := by
  simp [held, severing?, h]

theorem severing_iff {j : Nat} : r.severing? = some j ↔ ∃ k, r.Attends j k := by
  cases htask : r.task with
  | idle => simp [severing?, Attends, htask]
  | severing i k change => simp [severing?, Attends, htask]

theorem sever_of_attends {j k : Nat} (h : r.Attends j k) (backends : List Backend) :
    r.sever? backends = backends[j]?.bind fun b => b.severs[k]? := by
  obtain ⟨change, htask⟩ := h
  simp [sever?, htask]

/-- What a runner has yet to close at the backend of its sever. -/
theorem held_of_attends {j k : Nat} (h : r.Attends j k) {b : Backend} {sever : Sever}
    (hb : backends[j]? = some b) (hsever : b.severs[k]? = some sever) (i : Nat) :
    r.held backends i = if j = i then sever.left else [] := by
  have hsevering : r.severing? = some j := severing_iff.mpr ⟨k, h⟩
  simp [held, hsevering, sever_of_attends h, hb, hsever]

/-- A backend that keeps the sever of a runner may change. -/
theorem sever_set {j : Nat} {b b' : Backend} (hb : backends[j]? = some b)
    (hsevers : ∀ k, r.Attends j k → b'.severs[k]? = b.severs[k]?) :
    r.sever? (backends.set j b') = r.sever? backends := by
  unfold sever?
  split
  · rfl
  · rename_i i k change htask
    rw [getElem?_set_of_getElem? hb]
    split
    · subst j
      rw [hb, Option.bind_some, Option.bind_some, hsevers k ⟨change, htask⟩]
    · rfl

/-- What a runner has yet to close is told by the sever that it is at. -/
theorem held_congr {backends' : List Backend} (h : r.sever? backends' = r.sever? backends) :
    r.held backends' = r.held backends := by
  funext j
  rw [held, held, h]

end Runner

namespace Guest

/-- Whether a guest has a session. -/
def isOpen (g : Guest) : Bool :=
  match g.stage with
  | .bridged _ bridge .admitted | .bridged _ bridge .copying => !bridge.closed
  | _ => false

end Guest

/-- What a port sees of its lane. -/
structure LaneSight where
  monitor : Monitor
  runner : Runner
  sever : Option Sever

/-- What a port sees of the service: its lane, where its clients were sent and which guests they are
there, and, if it is the active port, how the status logger stands. -/
structure Sight where
  lane : Option LaneSight
  guests : List (Nat × Option Guest)
  logger : Option (StatusLogger.Phase × Duration)

/-- What a port sees of a lane. -/
def Lane.sight (lane : Lane) (backends : List Backend) : LaneSight :=
  { monitor := lane.monitor, runner := lane.runner.unnumbered
    sever := (lane.runner.sever? backends).map Sever.unnumbered }

namespace Service

/-- The guest that a client is. -/
def guestAt? (backends : List Backend) (held : List BridgeId) (client : Client) : Option Guest :=
  backends[client.backend]?.bind fun b => b.calls[client.call]?.map (b.guest held)

/-- The guests that clients are, each with its backend. -/
def glances (backends : List Backend) (held : Nat → List BridgeId) (clients : List Client) :
    List (Nat × Option Guest) :=
  clients.map fun client =>
    (client.backend, guestAt? backends (held client.backend) client)

/-- The bridges at the backend at a place that the runner of a lane has yet to close. -/
def heldBy (lane : Option Lane) (backends : List Backend) (j : Nat) : List BridgeId :=
  match lane with
  | some lane => lane.runner.held backends j
  | none => []

/-- What there is to be seen of a lane, of backends, of clients and of the status logger. -/
def sightOf (lane : Option Lane) (backends : List Backend) (clients : List Client)
    (logger : Option (StatusLogger.Phase × Duration)) : Sight :=
  { lane := lane.map fun lane => lane.sight backends
    guests := glances backends (heldBy lane backends) clients
    logger }

/-- How the status logger stands, for the port whose elections it tracks. -/
def loggerFor (s : Service) (port : ProxyPort) : Option (StatusLogger.Phase × Duration) :=
  match port with
  | .active => some (s.logger.phase, s.logger.interval)
  | .inactive => none

/-- What a port sees of the service. -/
def sight (s : Service) (port : ProxyPort) : Sight :=
  sightOf (s.lane? port) s.backends (s.clientsOf port) (s.loggerFor port)

/-- The guests at a backend change. -/
def mapAt (j : Nat) (f : Guest → Guest) (guests : List (Nat × Option Guest)) :
    List (Nat × Option Guest) :=
  guests.map fun e => if e.1 = j then (e.1, e.2.map f) else e

variable {s t : Service} {port : ProxyPort} {backends : List Backend} {clients : List Client}
  {held held' : Nat → List BridgeId}

/-! ## What is open -/

theorem is_open_eq (s : Service) (ids : List BridgeId) (client : Client) :
    s.isOpen client = (guestAt? s.backends ids client).any Guest.isOpen := by
  unfold isOpen call? guestAt?
  cases s.backends[client.backend]? with
  | none => rfl
  | some b =>
      rw [Option.bind_some, Option.bind_some]
      cases b.calls[client.call]? with
      | none => rfl
      | some call =>
          obtain ⟨generation, stage⟩ := call
          cases stage with
          | bridged id bridge point => cases point <;> rfl
          | dialing _ => rfl
          | failed _ _ => rfl
          | dialed _ _ => rfl

theorem standing_eq (s : Service) (port : ProxyPort) :
    s.standing port = (s.sight port).guests.map fun e => (e.1, e.2.any Guest.isOpen) := by
  simp only [standing, sight, sightOf, glances, List.map_map]
  refine List.map_congr_left fun client _ => ?_
  exact congrArg (client.backend, ·) (s.is_open_eq _ client)

/-- What is open through a port can be told of its sight. -/
theorem standing_of_sight (h : t.sight port = s.sight port) :
    t.standing port = s.standing port := by
  rw [standing_eq, standing_eq, h]

/-! ## How guests change -/

theorem mapAt_id (j : Nat) (guests : List (Nat × Option Guest)) :
    mapAt j (fun g => g) guests = guests := by
  simp [mapAt]

/-- The guest at a place. -/
theorem glances_get {n j : Nat} {g : Guest} :
    (glances backends held clients)[n]? = some (j, some g) ↔
      ∃ client b c, clients[n]? = some client ∧ client.backend = j ∧ backends[j]? = some b ∧
        b.calls[client.call]? = some c ∧ b.guest (held j) c = g := by
  rw [glances, List.getElem?_map, Option.map_eq_some_iff]
  constructor
  · rintro ⟨client, hclient, heq⟩
    obtain ⟨rfl, hguest⟩ := Prod.mk.inj heq
    obtain ⟨b, hb, hguest⟩ := Option.bind_eq_some_iff.mp hguest
    obtain ⟨c, hc, hguest⟩ := Option.map_eq_some_iff.mp hguest
    exact ⟨client, b, c, hclient, rfl, hb, hc, hguest⟩
  · rintro ⟨client, b, c, hclient, rfl, hb, hc, rfl⟩
    exact ⟨client, hclient, by simp [guestAt?, hb, hc]⟩

/-- A backend changes, and with it all guests there. -/
theorem glances_set {j : Nat} {b b' : Backend} (hb : backends[j]? = some b)
    (hplaced : Placed backends clients) (hheld : ∀ i, i ≠ j → held' i = held i)
    (f : Guest → Guest)
    (h : ∀ client ∈ clients, client.backend = j → ∀ c, b.calls[client.call]? = some c →
      ∃ c', b'.calls[client.call]? = some c' ∧ b'.guest (held' j) c' = f (b.guest (held j) c)) :
    glances (backends.set j b') held' clients = mapAt j f (glances backends held clients) := by
  simp only [glances, mapAt, List.map_map]
  refine List.map_congr_left fun client hclient => ?_
  simp only [Function.comp_apply]
  split
  · rename_i hj
    obtain ⟨c, hc⟩ : ∃ c, b.calls[client.call]? = some c :=
      ⟨_, List.getElem?_eq_getElem (hplaced hclient (hj ▸ hb))⟩
    obtain ⟨c', hc', hguest⟩ := h client hclient hj c hc
    simp [guestAt?, hj, getElem?_set_of_getElem? hb, hb, hc, hc', hguest]
  · rename_i hj
    simp [guestAt?, getElem?_set_of_getElem? hb, Ne.symm hj, hheld client.backend hj]

/-- A backend changes, and no guest. -/
theorem glances_set_same {j : Nat} {b b' : Backend} (hb : backends[j]? = some b)
    (hplaced : Placed backends clients)
    (h : ∀ client ∈ clients, client.backend = j → ∀ c, b.calls[client.call]? = some c →
      ∃ c', b'.calls[client.call]? = some c' ∧ b'.guest (held j) c' = b.guest (held j) c) :
    glances (backends.set j b') held clients = glances backends held clients := by
  rw [glances_set hb hplaced (fun _ _ => rfl) (fun g => g) h, mapAt_id]

/-- A backend changes, and with it one guest. -/
theorem glances_set_one {j n : Nat} {b b' : Backend} {client : Client} {c' : Call}
    (hb : backends[j]? = some b) (hplaced : Placed backends clients)
    (hheld : ∀ i, i ≠ j → held' i = held i) (hclient : clients[n]? = some client)
    (hj : client.backend = j) (hc' : b'.calls[client.call]? = some c')
    (h : ∀ m d, clients[m]? = some d → m ≠ n → d.backend = j → ∀ c, b.calls[d.call]? = some c →
      ∃ c', b'.calls[d.call]? = some c' ∧ b'.guest (held' j) c' = b.guest (held j) c) :
    glances (backends.set j b') held' clients =
      (glances backends held clients).set n (j, some (b'.guest (held' j) c')) := by
  have hlt := (List.getElem?_eq_some_iff.mp hclient).1
  apply List.ext_getElem?
  intro m
  rw [List.getElem?_set, glances, glances, List.getElem?_map, List.getElem?_map, List.length_map]
  split
  · subst m
    rw [hclient]
    simp [guestAt?, hj, getElem?_set_of_getElem? hb, hc']
  · rename_i hm
    cases hd : clients[m]? with
    | none => rfl
    | some d =>
        rw [Option.map_some, Option.map_some]
        by_cases hdj : d.backend = j
        · obtain ⟨c, hc⟩ : ∃ c, b.calls[d.call]? = some c :=
            ⟨_, List.getElem?_eq_getElem (hplaced (List.mem_of_getElem? hd) (hdj ▸ hb))⟩
          obtain ⟨e, he, hguest⟩ := h m d hd (Ne.symm hm) hdj c hc
          simp [guestAt?, hdj, getElem?_set_of_getElem? hb, hb, hc, he, hguest]
        · simp [guestAt?, getElem?_set_of_getElem? hb, Ne.symm hdj, hheld d.backend hdj]

end Service

end GaleraProxy
