import GaleraProxy.Proofs.Backend.Custody
import GaleraProxy.Service.Deployment

/-!
# How a client is let in

A client that connects while its runner is ready is sent to the backend of the route, and once its
dial has succeeded three steps connect it with the server: `admits_of_route`. Without a route the
client is turned away: `turns_away_of_route`.
-/

namespace GaleraProxy

namespace Service

variable {s : Service}

/-- A client is the `n`th that was sent to a backend, and that is its call there. -/
structure HasCall (s : Service) (n : Nat) (client : Client) (b : Backend) (c : Call) : Prop where
  client_get : s.clients[n]? = some client
  backend_get : s.backends[client.backend]? = some b
  call_get : b.calls[client.call]? = some c

/-- A client that came at a port is connected with the server at the backend of a place: its bridge
is registered there, open, and copies. -/
def Connects (s : Service) (n : Nat) (port : ProxyPort) (i : Nat) (client server : Duplex) : Prop :=
  ∃ k b c id, s.HasCall n ⟨port, i, k⟩ b c ∧
    c.stage = .bridged id (Bridge.create client server).connect .copying ∧
    id ∈ b.registry.members

/-- The service with a client whose connection has been dropped. -/
def withTurnedAway (s : Service) (client : Duplex) : Service :=
  { s with turnedAway := s.turnedAway ++ [client.drop] }

/-- What a step of the service leads to, whatever the moment at which it is taken. -/
def LeadsTo (s : Service) (action : Action) (s' : Service) : Prop :=
  ∃ effects, ∀ (now : Moment) (time : Timestamp), s.step now time action = some (s', effects)

section Connecting

variable {port : ProxyPort} {lane : Lane}

theorem connect_of_no_route (hlane : s.lane? port = some lane)
    (hready : lane.runner.isReady = true) (hroute : lane.runner.route = none) (client : Duplex) :
    s.LeadsTo (.connect port client) (s.withTurnedAway client) := by
  refine ⟨[], fun now time => ?_⟩
  simp [step, connect, hlane, hready, hroute, withTurnedAway]

/-- A client that is sent to a backend dials in the backend's present generation. -/
theorem connect_of_route {i : Nat} {b : Backend} (hlane : s.lane? port = some lane)
    (hready : lane.runner.isReady = true) (hroute : lane.runner.route = some i)
    (hb : s.backends[i]? = some b) (client : Duplex) :
    ∃ s', s.LeadsTo (.connect port client) s' ∧ s'.HasCall s.clients.length
      ⟨port, i, b.calls.length⟩ (b.beginCall client b.generation)
      ⟨b.generation, .dialing client⟩ := by
  refine ⟨{ s with
    backends := s.backends.set i (b.beginCall client b.generation)
    clients := s.clients ++ [⟨port, i, b.calls.length⟩] }, ⟨[], fun now time => ?_⟩, ?_⟩
  · simp [step, connect, hlane, hready, hroute, hb, Runner.accept, modify_eq_set_of_getElem? hb]
  · exact ⟨List.getElem?_concat_length, getElem?_set_self_of_getElem? hb _,
      List.getElem?_concat_length⟩

end Connecting

section Calling

variable {n : Nat} {client : Client} {b : Backend} {c : Call}

/-- A client whose call changes has the call as it is then. -/
theorem HasCall.with_call (h : s.HasCall n client b c) (registry : Registry) (c' : Call) :
    HasCall { s with backends := s.backends.set client.backend (b.withCall registry client.call c') }
      n client (b.withCall registry client.call c') c' where
  client_get := h.client_get
  backend_get := getElem?_set_self_of_getElem? h.backend_get _
  call_get := by rw [Backend.with_call_get h.call_get, if_pos rfl]

/-- The dial of a client succeeds. -/
theorem HasCall.end_dial {generation : Nat} {conn : Duplex}
    (h : s.HasCall n client b ⟨generation, .dialing conn⟩) (server : Duplex) :
    ∃ s', s.LeadsTo (.endDial n (.ok server)) s' ∧ s'.HasCall n client
      (b.withCall b.registry client.call ⟨generation, .dialed conn server⟩)
      ⟨generation, .dialed conn server⟩ := by
  refine ⟨_, ⟨[], fun now time => ?_⟩, h.with_call b.registry ⟨generation, .dialed conn server⟩⟩
  simp [step, endDial, stepBackend, h.client_get, h.backend_get, h.call_get, Backend.endDial,
    Backend.set_stage_eq h.call_get]

/-- A call that can advance does so. -/
theorem HasCall.step_call (h : s.HasCall n client b c) {registry : Registry} {stage : Call.Stage}
    (hadvance : b.Advance c.generation c.stage registry stage) :
    ∃ s', s.LeadsTo (.stepCall n) s' ∧ s'.HasCall n client
      (b.withCall registry client.call { c with stage }) { c with stage } := by
  obtain ⟨effects, hstep⟩ := Backend.step_call_of_advance h.call_get hadvance
  refine ⟨_, ⟨shown client.port.proxy effects, fun now time => ?_⟩, h.with_call registry _⟩
  simp [step, stepBackend, h.client_get, h.backend_get, hstep]

end Calling

end Service

namespace Deployment

variable {d d' next : Deployment} {action : Action} {actions rest : List Action}

/-- Some actions lead somewhere, whatever the moments at which they are taken. -/
def Leads (d : Deployment) (actions : List Action) (d' : Deployment) : Prop :=
  ∀ schedule : List (Moment × Timestamp × Action),
    schedule.map (fun entry => entry.2.2) = actions → d.run schedule = some d'

theorem Leads.nil (d : Deployment) : d.Leads [] d := by
  intro schedule hschedule
  rw [List.map_eq_nil_iff.mp hschedule]
  rfl

theorem Leads.cons (h : next.Leads rest d')
    (hstep : ∀ (now : Moment) (time : Timestamp), d.step now time action = some next) :
    d.Leads (action :: rest) d' := by
  intro schedule hschedule
  obtain ⟨⟨now, time, own⟩, others, rfl, rfl, hrest⟩ := List.map_eq_cons_iff.mp hschedule
  show (d.step now time own).bind (fun next => run next others) = some d'
  rw [hstep now time]
  exact h others hrest

/-- Actions that lead somewhere can be taken at any one moment. -/
theorem Leads.run_at (h : d.Leads actions d') (now : Moment) (time : Timestamp) :
    d.run (actions.map fun action => (now, time, action)) = some d' := by
  refine h _ ?_
  rw [List.map_map]
  exact List.map_id actions

theorem Leads.unique {d'' : Deployment} (h : d.Leads actions d') (h' : d.Leads actions d'') :
    d' = d'' :=
  Option.some.inj ((h.run_at 0 ⟨0, 0⟩).symm.trans (h'.run_at 0 ⟨0, 0⟩))

/-- A step of the service that tells nothing about polls. -/
theorem Leads.serve {s' : Service} {action : Service.Action}
    (h : Leads { d with service := s' } rest d') (hstep : d.service.LeadsTo action s')
    (hordinary : isOrdinary action = true) (hnote : d.note action = d) :
    d.Leads (.serve action :: rest) d' := by
  obtain ⟨effects, hstep⟩ := hstep
  refine h.cons fun now time => ?_
  simp only [step, hordinary, if_true, hstep, Option.map_some, hnote]

/-- What a client does and what is done for it, if its dial succeeds. -/
def visit (n : Nat) (port : ProxyPort) (client server : Duplex) : List Action :=
  [.serve (.connect port client), .serve (.endDial n (.ok server)), .serve (.stepCall n),
   .serve (.stepCall n), .serve (.stepCall n)]

/-- A new client of a port is connected with the backend at a place. -/
def Admits (d : Deployment) (port : ProxyPort) (i : Nat) : Prop :=
  ∀ client server : Duplex, ∃ d', d.Leads (visit d.service.clients.length port client server) d' ∧
    d'.service.Connects d.service.clients.length port i client server

/-- The connection of a new client of a port is dropped, and nothing else happens. -/
def TurnsAway (d : Deployment) (port : ProxyPort) : Prop :=
  ∀ client : Duplex, d.Leads [.serve (.connect port client)]
    { d with service := d.service.withTurnedAway client }

variable {port : ProxyPort} {lane : Lane}

/-- Where there is a route, a client is let in. -/
theorem admits_of_route {i : Nat} {b : Backend} (hlane : d.service.lane? port = some lane)
    (hready : lane.runner.isReady = true) (hroute : lane.runner.route = some i)
    (hb : d.service.backends[i]? = some b) : d.Admits port i := by
  intro client server
  obtain ⟨s₁, hconnect, hdialing⟩ :=
    Service.connect_of_route hlane hready hroute hb client
  obtain ⟨s₂, hdial, hdialed⟩ := hdialing.end_dial server
  obtain ⟨s₃, hregister, hregistered⟩ := hdialed.step_call (.register client server)
  -- nobody has severed the backend since the client was sent there
  obtain ⟨s₄, haccept, hadmitted⟩ := hregistered.step_call (.accept _ _ rfl)
  obtain ⟨s₅, hstart, hcopying⟩ := hadmitted.step_call (.connect _ _)
  refine ⟨{ d with service := s₅ }, ?_, b.calls.length, _, _, _, hcopying, rfl, ?_⟩
  · refine Leads.serve ?_ hconnect rfl rfl
    refine Leads.serve ?_ hdial rfl rfl
    refine Leads.serve ?_ hregister rfl rfl
    refine Leads.serve ?_ haccept rfl rfl
    exact (Leads.nil _).serve hstart rfl rfl
  · exact List.mem_append_right _ List.mem_cons_self

/-- Without a route a client is turned away. -/
theorem turns_away_of_route (hlane : d.service.lane? port = some lane)
    (hready : lane.runner.isReady = true) (hroute : lane.runner.route = none) :
    d.TurnsAway port := fun client =>
  (Leads.nil _).serve (Service.connect_of_no_route hlane hready hroute client) rfl rfl

/-- A client is let in at one backend only. -/
theorem Admits.unique {i j : Nat} (h : d.Admits port i) (h' : d.Admits port j) : i = j := by
  obtain ⟨d', hleads, k, b, c, id, hcall, -⟩ := h (.empty 0) (.empty 0)
  obtain ⟨d'', hleads', k', b', c', id', hcall', -⟩ := h' (.empty 0) (.empty 0)
  obtain rfl := hleads.unique hleads'
  obtain ⟨-, hij, -⟩ :=
    Client.mk.inj (Option.some.inj (hcall.client_get.symm.trans hcall'.client_get))
  exact hij

/-- A client that is turned away is not let in. -/
theorem TurnsAway.not_admits (h : d.TurnsAway port) (i : Nat) : ¬ d.Admits port i := by
  intro hadmits
  obtain ⟨d', hleads, -⟩ := hadmits (.empty 0) (.empty 0)
  obtain ⟨next, hconnect, hrest⟩ := Option.bind_eq_some_iff.mp (hleads.run_at 0 ⟨0, 0⟩)
  obtain ⟨next', hturned, hlast⟩ := Option.bind_eq_some_iff.mp ((h (.empty 0)).run_at 0 ⟨0, 0⟩)
  obtain rfl := Option.some.inj (hconnect.symm.trans hturned)
  obtain rfl := Option.some.inj hlast
  -- nobody has come whose dial could end
  obtain ⟨last, hdial, -⟩ := Option.bind_eq_some_iff.mp hrest
  simp [step, Service.step, Service.endDial, Service.withTurnedAway] at hdial

end Deployment

end GaleraProxy
