import GaleraProxy.Proofs.Service.Admission
import GaleraProxy.Proofs.Service.Quietness

/-!
# Clients and their calls

A client is told by its place among all clients, or by its place among those of its port. No two
clients share a call, and four actions are those of the call of one client.
-/

namespace GaleraProxy

/-- An element that a filter keeps is found in what is kept after those before it. -/
theorem filter_get_countP {α : Type} {p : α → Bool} {l : List α} {n : Nat} {a : α}
    (ha : l[n]? = some a) (hp : p a = true) :
    (l.filter p)[(l.take n).countP p]? = some a := by
  induction l generalizing n with
  | nil => cases ha
  | cons first rest ih =>
      cases n with
      | zero =>
          obtain rfl := Option.some.inj ha
          simp [List.filter_cons_of_pos hp]
      | succ n =>
          rw [List.take_succ_cons, List.countP_cons]
          have hrest := ih ha
          by_cases hfirst : p first = true
          · rw [List.filter_cons_of_pos hfirst, if_pos hfirst, List.getElem?_cons_succ]
            exact hrest
          · rw [List.filter_cons_of_neg hfirst, if_neg hfirst]
            exact hrest

namespace Service

variable {c : Config} {s : Service} {port : ProxyPort} {client d e : Client} {g n : Nat}

/-- Clients at different places have different calls. -/
theorem call_ne_of_apart {clients : List Client} {m backends : Nat}
    (hapart : clients.Pairwise (Apart backends)) (hd : clients[m]? = some d)
    (he : clients[n]? = some e) (hne : m ≠ n) (hbackend : d.backend = e.backend)
    (hlt : d.backend < backends) : d.call ≠ e.call := by
  obtain ⟨hm, rfl⟩ := List.getElem?_eq_some_iff.mp hd
  obtain ⟨hn, rfl⟩ := List.getElem?_eq_some_iff.mp he
  have hindexed := List.pairwise_iff_getElem.mp hapart
  rcases Nat.lt_or_gt_of_ne hne with hlt' | hlt'
  · exact hindexed m n hm hn hlt' hbackend hlt
  · exact (hindexed n m hn hm hlt' hbackend.symm (hbackend ▸ hlt)).symm

theorem mem_clientsOf : client ∈ s.clientsOf port ↔ client ∈ s.clients ∧ client.port = port := by
  simp [clientsOf]

/-- A client of a port is found at its place. -/
theorem get_of_place (h : s.placeAt? port g = some n) :
    ∃ client, s.clients[g]? = some client ∧ client.port = port ∧
      (s.clientsOf port)[n]? = some client := by
  unfold placeAt? at h
  split at h
  · rename_i client hclient
    split at h
    · rename_i hport
      obtain rfl := Option.some.inj h
      exact ⟨client, hclient, hport, filter_get_countP hclient (by simpa using hport)⟩
    · cases h
  · cases h

/-- A client without a place among those of a port is one of the other port. -/
theorem port_ne_of_place (h : s.placeAt? port g = none) (hclient : s.clients[g]? = some client) :
    client.port ≠ port := by
  intro hport
  simp [placeAt?, hclient, hport] at h

/-- If all clients are those of a port, they have the same places among them. -/
theorem place_of_all (hall : ∀ client ∈ s.clients, client.port = port)
    (hclient : s.clients[n]? = some client) : s.placeAt? port n = some n := by
  have hport := hall client (List.mem_of_getElem? hclient)
  have hlt := (List.getElem?_eq_some_iff.mp hclient).1
  have hcount : (s.clients.take n).countP (fun c => c.port == port) = n := by
    rw [List.countP_eq_length.mpr, List.length_take_of_le (Nat.le_of_lt hlt)]
    intro d hd
    simpa using hall d (List.mem_of_mem_take hd)
  simp [placeAt?, hclient, hport, hcount]

/-- If all clients are those of a port, none is left out. -/
theorem clientsOf_of_all (hall : ∀ client ∈ s.clients, client.port = port) :
    s.clientsOf port = s.clients :=
  List.filter_eq_self.mpr fun client hclient => by simpa using hall client hclient

/-! ## Calm services -/

theorem Calm.placed (h : s.Calm c) (port : ProxyPort) : Placed s.backends (s.clientsOf port) :=
  fun _ _ hclient => h.sound.placed (mem_clientsOf.mp hclient).1

theorem Calm.apart (h : s.Calm c) (port : ProxyPort) :
    (s.clientsOf port).Pairwise (Apart s.backends.length) :=
  h.quiet.apart.filter _

/-- The call of a client is none of another client. -/
theorem Calm.call_ne (h : s.Calm c) {m : Nat} {b : Backend} (hd : s.clients[m]? = some d)
    (he : s.clients[n]? = some e) (hne : m ≠ n) (hbackend : d.backend = e.backend)
    (hb : s.backends[e.backend]? = some b) : d.call ≠ e.call :=
  call_ne_of_apart h.quiet.apart hd he hne hbackend
    (hbackend ▸ (List.getElem?_eq_some_iff.mp hb).1)

/-- The call of a client of a port is none of a client of the other port. -/
theorem Calm.call_ne_of_port (h : s.Calm c) {b : Backend} (hd : d ∈ s.clientsOf port)
    (he : s.clients[n]? = some e) (hport : e.port ≠ port) (hbackend : d.backend = e.backend)
    (hb : s.backends[e.backend]? = some b) : d.call ≠ e.call := by
  obtain ⟨hmem, hown⟩ := mem_clientsOf.mp hd
  obtain ⟨m, hm⟩ := List.getElem?_of_mem hmem
  refine h.call_ne hm he ?_ hbackend hb
  rintro rfl
  obtain rfl := Option.some.inj (hm.symm.trans he)
  exact hport hown

/-- The call of a client of a port is none of another client of the port. -/
theorem Calm.call_ne_of_place (h : s.Calm c) {m : Nat} {b : Backend}
    (hd : (s.clientsOf port)[m]? = some d) (he : (s.clientsOf port)[n]? = some e) (hne : m ≠ n)
    (hbackend : d.backend = e.backend) (hb : s.backends[e.backend]? = some b) :
    d.call ≠ e.call :=
  call_ne_of_apart (h.apart port) hd he hne hbackend
    (hbackend ▸ (List.getElem?_eq_some_iff.mp hb).1)

end Service

end GaleraProxy

/-!
## Steps of calls

Four actions are those of the call of one client: its dial ends, it goes on by itself, or something
comes from a far end. These lemmas say when each can be taken and what it leads to.
-/

namespace GaleraProxy.Service

variable {c : Config} {s s' : Service} {g : Nat} {client : Client} {b : Backend} {call : Call}
  {now : Moment} {time : Timestamp} {effects : List (Component × Effect)}

/-- The service once the call of a client has gone to another stage. -/
def withCall (s : Service) (client : Client) (b : Backend) (registry : Registry) (call : Call) :
    Service :=
  { s with backends := s.backends.set client.backend (b.withCall registry client.call call) }

theorem step_backend_cases {f : Backend → Nat → Option (Backend × List (Component × Effect))}
    (h : s.stepBackend g f = some (s', effects)) (hplaced : Placed s.backends s.clients) :
    ∃ client b call b', s.HasCall g client b call ∧ f b client.call = some (b', effects) ∧
      s' = { s with backends := s.backends.set client.backend b' } := by
  obtain ⟨client, hclient, h⟩ := Option.bind_eq_some_iff.mp h
  obtain ⟨b, hb, h⟩ := Option.bind_eq_some_iff.mp h
  obtain ⟨⟨b', shown⟩, hb', h⟩ := Option.bind_eq_some_iff.mp h
  obtain ⟨rfl, rfl⟩ := Prod.mk.inj (Option.some.inj h)
  have hlt := hplaced (List.mem_of_getElem? hclient) hb
  exact ⟨client, b, b.calls[client.call], b', ⟨hclient, hb, List.getElem?_eq_getElem hlt⟩, hb', rfl⟩

theorem step_backend_eq {f : Backend → Nat → Option (Backend × List (Component × Effect))}
    {b' : Backend} (hcall : s.HasCall g client b call) (hf : f b client.call = some (b', effects)) :
    s.stepBackend g f =
      some ({ s with backends := s.backends.set client.backend b' }, effects) := by
  simp [stepBackend, hcall.client_get, hcall.backend_get, hf]

/-- A call goes on by itself. -/
theorem step_call_iff (hplaced : Placed s.backends s.clients) :
    (∃ effects, s.step now time (.stepCall g) = some (s', effects)) ↔
      ∃ client b call registry stage, s.HasCall g client b call ∧
        Backend.Advance b call.generation call.stage registry stage ∧
        s' = s.withCall client b registry { call with stage } := by
  constructor
  · rintro ⟨effects, h⟩
    obtain ⟨port, -, h⟩ := Option.bind_eq_some_iff.mp h
    obtain ⟨client, b, call, b', hcall, hb', rfl⟩ := step_backend_cases h hplaced
    obtain ⟨⟨next, shown⟩, hnext, heq⟩ := Option.map_eq_some_iff.mp hb'
    obtain ⟨rfl, -⟩ := Prod.mk.inj heq
    obtain ⟨call', registry, stage, hcall', hadvance, rfl⟩ := Backend.step_call_cases hnext
    obtain rfl := Option.some.inj (hcall.call_get.symm.trans hcall')
    exact ⟨client, b, call, registry, stage, hcall, hadvance, rfl⟩
  · rintro ⟨client, b, call, registry, stage, hcall, hadvance, rfl⟩
    obtain ⟨effects, hstep⟩ := Backend.step_call_of_advance hcall.call_get hadvance
    refine ⟨shown client.port.proxy effects, ?_⟩
    simp only [step, hcall.client_get, Option.bind_eq_bind, Option.bind_some]
    exact step_backend_eq hcall (by rw [hstep]; rfl)

/-- The stage of a call whose dial has ended. -/
def dialEnded (b : Backend) (client : Duplex) : Except String Duplex → Call.Stage
  | .ok server => .dialed client server
  | .error detail => .failed client.drop (b.dialError detail)

/-- A dial ends. -/
theorem end_dial_iff (hplaced : Placed s.backends s.clients) (result : Except String Duplex) :
    (∃ effects, s.step now time (.endDial g result) = some (s', effects)) ↔
      ∃ client b call duplex, s.HasCall g client b call ∧ call.stage = .dialing duplex ∧
        s' = s.withCall client b b.registry { call with stage := dialEnded b duplex result } := by
  have hended : ∀ {b : Backend} {i generation : Nat} {duplex : Duplex},
      b.calls[i]? = some ⟨generation, .dialing duplex⟩ → b.endDial i result =
        b.withCall b.registry i ⟨generation, dialEnded b duplex result⟩ := by
    intro b i generation duplex hc
    simp only [Backend.endDial, hc]
    cases result <;> exact Backend.set_stage_eq hc _
  constructor
  · rintro ⟨effects, h⟩
    obtain ⟨port, -, h⟩ := Option.bind_eq_some_iff.mp h
    obtain ⟨client, b, call, b', hcall, hb', rfl⟩ := step_backend_cases h hplaced
    simp only [hcall.call_get] at hb'
    split at hb'
    · rename_i generation duplex heq
      obtain rfl := Option.some.inj heq
      obtain ⟨rfl, -⟩ := Prod.mk.inj (Option.some.inj hb')
      refine ⟨client, b, _, duplex, hcall, rfl, ?_⟩
      rw [hended hcall.call_get]
      rfl
    · cases hb'
  · rintro ⟨client, b, ⟨generation, stage⟩, duplex, hcall, rfl, rfl⟩
    rw [withCall, ← hended hcall.call_get]
    simp only [step, endDial, hcall.client_get, Option.bind_eq_bind, Option.bind_some]
    cases result with
    | ok server =>
        refine ⟨[], step_backend_eq hcall ?_⟩
        simp only [hcall.call_get]
    | error detail =>
        refine ⟨[(client.port.proxy, .log (.sessionFailed (b.dialError detail).message))],
          step_backend_eq hcall ?_⟩
        simp only [hcall.call_get]

/-- Something comes from a far end of the call of a client. -/
def Action.far (side : FarEnd) (g : Nat) (event : Duplex.FarEvent) : Action :=
  match side with
  | .client => .clientEvent g event
  | .server => .serverEvent g event

theorem step_far (s : Service) (side : FarEnd) (event : Duplex.FarEvent) :
    s.step now time (.far side g event) = s.stepBackend g fun b i =>
      some (b.modifyCall i fun call => call.mapFar side fun d => d.afterFar event, []) := by
  cases side <;> rfl

/-- Something comes from a far end. -/
theorem far_event_iff (hplaced : Placed s.backends s.clients) (side : FarEnd)
    (event : Duplex.FarEvent) :
    (∃ effects, s.step now time (.far side g event) = some (s', effects)) ↔
      ∃ client b call, s.HasCall g client b call ∧
        s' = s.withCall client b b.registry (call.mapFar side fun d => d.afterFar event) := by
  rw [step_far]
  constructor
  · rintro ⟨effects, h⟩
    obtain ⟨client, b, call, b', hcall, hb', rfl⟩ := step_backend_cases h hplaced
    obtain ⟨rfl, -⟩ := Prod.mk.inj (Option.some.inj hb')
    exact ⟨client, b, call, hcall, by rw [Backend.modify_call_eq hcall.call_get]; rfl⟩
  · rintro ⟨client, b, call, hcall, rfl⟩
    refine ⟨[], ?_⟩
    rw [withCall, ← Backend.modify_call_eq hcall.call_get]
    exact step_backend_eq hcall rfl

/-- A far end changes nothing but the connections of a call. -/
theorem map_far_outside (side : FarEnd) (event : Duplex.FarEvent) (call : Call) :
    ∃ stage, (call.mapFar side fun d => d.afterFar event) = { call with stage } ∧
      Backend.Outside call.stage stage := by
  cases side with
  | client => exact Backend.map_client_outside event call
  | server => exact Backend.map_server_outside event call

/-- Whatever a call does, only its own stage and the registry of its backend change. -/
theorem call_step_cases (hplaced : Placed s.backends s.clients) {action : Action}
    (hcaller : action.caller? = some g) (h : s.step now time action = some (s', effects)) :
    ∃ client b call registry stage, s.HasCall g client b call ∧
      Backend.Touch b call.generation call.stage registry stage ∧
      s' = s.withCall client b registry { call with stage } := by
  have hfar : ∀ (side : FarEnd) (event : Duplex.FarEvent),
      s.step now time (.far side g event) = some (s', effects) →
      ∃ client b call registry stage, s.HasCall g client b call ∧
        Backend.Touch b call.generation call.stage registry stage ∧
        s' = s.withCall client b registry { call with stage } := by
    intro side event h
    obtain ⟨client, b, call, hcall, rfl⟩ := (far_event_iff hplaced side event).mp ⟨effects, h⟩
    obtain ⟨stage, heq, hevent⟩ := map_far_outside side event call
    exact ⟨client, b, call, b.registry, stage, hcall, .outside hevent, by rw [heq]⟩
  cases action with
  | stepCall n =>
      obtain rfl := Option.some.inj hcaller
      obtain ⟨client, b, call, registry, stage, hcall, hadvance, rfl⟩ :=
        (step_call_iff hplaced).mp ⟨effects, h⟩
      exact ⟨client, b, call, registry, stage, hcall, .advance hadvance, rfl⟩
  | endDial n result =>
      obtain rfl := Option.some.inj hcaller
      obtain ⟨client, b, ⟨generation, stage⟩, duplex, hcall, rfl, rfl⟩ :=
        (end_dial_iff hplaced result).mp ⟨effects, h⟩
      refine ⟨client, b, _, b.registry, _, hcall, ?_, rfl⟩
      cases result with
      | ok server => exact .succeed duplex server
      | error detail => exact .fail duplex (b.dialError detail)
  | clientEvent n event =>
      obtain rfl := Option.some.inj hcaller
      exact hfar .client event h
  | serverEvent n event =>
      obtain rfl := Option.some.inj hcaller
      exact hfar .server event h
  | _ => cases hcaller

end GaleraProxy.Service
