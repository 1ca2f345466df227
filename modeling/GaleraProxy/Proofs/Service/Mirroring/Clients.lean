import GaleraProxy.Proofs.Service.Mirroring.Basic

/-!
# Steps of clients

A client that comes at a port, its dial and its call look the same in two services that look the
same.
-/

namespace GaleraProxy.Service

variable {c : Config} {s s' t : Service} {port : ProxyPort} {now : Moment} {time : Timestamp}

/-- The guest that a client is whose call has just begun. -/
def newcomer (client : Duplex) : Guest :=
  { stage := .dialing client, present := true, registered := false, swept := false }

/-- A client comes at the port. -/
theorem sight_of_connect (hcalm : s.Calm c) {lane : Lane} (hlane : s.lane? port = some lane)
    (hready : lane.runner.isReady = true) {i : Nat} (hroute : lane.runner.route = some i)
    (client : Duplex) :
    ({ s with
      backends := lane.runner.accept s.backends client
      clients := s.clients ++
        [⟨port, i, (s.backends[i]?.map fun b => b.calls.length).getD 0⟩] } : Service).sight port =
      { s.sight port with
        guests := (s.sight port).guests ++
          [(i, s.backends[i]?.map fun _ => newcomer client)] } := by
  have hidle := Runner.task_of_ready hready
  have hsight : ∀ backends new, new.port = port →
      ({ s with backends, clients := s.clients ++ [new] } : Service).sight port =
        { sightOf (some lane) backends (s.clientsOf port) (s.loggerFor port) with
          guests := glances backends (fun _ => []) (s.clientsOf port) ++
            [(new.backend, guestAt? backends [] new)] } := by
    intro backends new hnew
    have hclients : clientsOf { s with backends, clients := s.clients ++ [new] } port =
        s.clientsOf port ++ [new] := by
      simp [clientsOf, hnew]
    have hown : lane? { s with backends, clients := s.clients ++ [new] } port = some lane := by
      rw [← hlane]
      cases port <;> rfl
    rw [sight, hclients, hown, sight_of_idle hidle, sight_of_idle hidle, glances, List.map_append]
    cases port <;> rfl
  rw [hsight _ _ rfl, sight, hlane]
  cases hb : s.backends[i]? with
  | none =>
      have hsame : lane.runner.accept s.backends client = s.backends := by
        rw [Runner.accept, hroute]
        exact List.modify_eq_self (List.getElem?_eq_none_iff.mp hb)
      rw [hsame, sight_of_idle hidle]
      simp [guestAt?, hb]
  | some b =>
      have hset : lane.runner.accept s.backends client =
          s.backends.set i (b.beginCall client b.generation) := by
        rw [Runner.accept, hroute]
        exact modify_eq_set_of_getElem? hb
      have hkept : glances (s.backends.set i (b.beginCall client b.generation)) (fun _ => [])
          (s.clientsOf port) = glances s.backends (fun _ => []) (s.clientsOf port) := by
        refine glances_set_same hb (hcalm.placed port) fun d hd hi call hcall => ⟨call, ?_, rfl⟩
        exact (List.getElem?_append_left (List.getElem?_eq_some_iff.mp hcall).1).trans hcall
      have hnew : guestAt? (s.backends.set i (b.beginCall client b.generation)) []
          ⟨port, i, b.calls.length⟩ = some (newcomer client) := by
        simp [guestAt?, getElem?_set_of_getElem? hb, Backend.beginCall, Backend.guest, newcomer,
          Call.isOver, Call.Stage.unnumbered, Call.Stage.bridgeId?]
      rw [hset, sight_of_idle hidle, sight_of_idle hidle, hkept, Option.map_some,
        Option.getD_some, hnew, Option.map_some]

namespace Mirrors

/-- A client comes at the port. -/
theorem connect_matches (h : Mirrors c port s t) {client : Duplex}
    {effects : List (Component × Effect)} (hstep : s.connect port client = some (s', effects)) :
    t.Matches port now time (.connect port client) s' := by
  obtain ⟨lane, hlane, hready, hcases⟩ := connect_iff.mp ⟨effects, hstep⟩
  obtain ⟨lane', hlane', -, hrunner, -⟩ := h.lane hlane
  have hrunner' := Runner.eq_of_unnumbered hrunner (Runner.task_of_ready hready)
  have hready' : lane'.runner.isReady = true := hrunner' ▸ hready
  rcases hcases with ⟨hroute, rfl⟩ | ⟨i, hroute, rfl⟩
  · obtain ⟨effects', hstep'⟩ : ∃ effects', t.connect port client =
        some ({ t with turnedAway := t.turnedAway ++ [client.drop] }, effects') :=
      connect_iff.mpr ⟨lane', hlane', hready', .inl ⟨hrunner' ▸ hroute, rfl⟩⟩
    refine ⟨.connect port client, _, effects', rfl, hstep', if_pos rfl, ?_, ?_, h.all⟩
    · exact Eq.trans (by cases port <;> rfl) (h.same.trans (by cases port <;> rfl))
    · cases port <;> rfl
  · have hroute' : lane'.runner.route = some i := hrunner' ▸ hroute
    obtain ⟨effects', hstep'⟩ : ∃ effects', t.connect port client = some ({ t with
        backends := lane'.runner.accept t.backends client
        clients := t.clients ++
          [⟨port, i, (t.backends[i]?.map fun b => b.calls.length).getD 0⟩] }, effects') :=
      connect_iff.mpr ⟨lane', hlane', hready', .inr ⟨i, hroute', rfl⟩⟩
    refine ⟨.connect port client, _, effects', rfl, hstep', if_pos rfl, ?_, ?_, ?_⟩
    · have hplace : (t.backends[i]?.map fun _ => newcomer client) =
          s.backends[i]?.map fun _ => newcomer client := by
        cases hb : s.backends[i]? with
        | none => rw [h.backend_none hb]
        | some b =>
            obtain ⟨b', hb', -⟩ := h.backend hb
            rw [hb']
            rfl
      rw [sight_of_connect h.calm' hlane' hready' hroute',
        sight_of_connect h.calm hlane hready hroute, h.same, hplace]
    · cases port <;> rfl
    · intro d hd
      rcases List.mem_append.mp hd with hold | hnew
      · exact h.all d hold
      · rw [List.mem_singleton.mp hnew]

end Mirrors

/-! ## Calls -/

/-- What a runner has yet to close was numbered before. -/
theorem Calm.held_lt_created (hcalm : s.Calm c) (port : ProxyPort) {j : Nat} {b : Backend}
    (hb : s.backends[j]? = some b) :
    ∀ id ∈ heldBy (s.lane? port) s.backends j, id < b.registry.created := by
  intro id hid
  cases hlane : s.lane? port with
  | none =>
      rw [hlane] at hid
      cases hid
  | some lane =>
      rw [hlane] at hid
      by_cases hsevering : lane.runner.severing? = some j
      · obtain ⟨k, hattends⟩ := Runner.severing_iff.mp hsevering
        obtain ⟨d, hd, hlt⟩ := hcalm.quiet.begun hlane hattends
        obtain rfl := Option.some.inj (hb.symm.trans hd)
        have hsever := List.getElem?_eq_getElem hlt
        simp only [heldBy, Runner.held_of_attends hattends hb hsever, if_true] at hid
        cases hkind : b.severs[k] with
        | raised => simp [hkind, Sever.left] at hid
        | returned => simp [hkind, Sever.left] at hid
        | closing ids =>
            rw [hkind] at hsever hid
            exact (hcalm.quiet.tidy hb).lt_created (hcalm.sound.consistent hb) hsever hid
      · simp [heldBy, Runner.held, hsevering] at hid

/-- The call of a client of the port takes a step. -/
theorem sight_of_call (hcalm : s.Calm c) {g n : Nat} {client : Client} {b : Backend}
    {own : Call} {registry : Registry} {stage : Call.Stage} (hcall : s.HasCall g client b own)
    (htouch : Backend.Touch b own.generation own.stage registry stage)
    (hplace : (s.clientsOf port)[n]? = some client) :
    (s.withCall client b registry { own with stage }).sight port =
      { s.sight port with
        guests := (s.sight port).guests.set n (client.backend,
          some ((b.withCall registry client.call { own with stage }).guest
            (heldBy (s.lane? port) s.backends client.backend) { own with stage })) } := by
  have hnow : (b.withCall registry client.call { own with stage }).calls[client.call]? =
      some { own with stage } := by
    rw [Backend.with_call_get hcall.call_get, if_pos rfl]
  have hsevers : ∀ lane ∈ s.lane? port, ∀ k, lane.runner.Attends client.backend k →
      (b.withCall registry client.call { own with stage }).severs[k]? = b.severs[k]? :=
    fun _ _ _ _ => rfl
  rw [withCall, sight_with_backends, sight_of_backend hcall.backend_get hsevers,
    glances_set_one hcall.backend_get (hcalm.placed port) (fun _ _ => rfl) hplace rfl hnow]
  · rfl
  · intro m d hd hne hbackend call hdcall
    exact guest_of_other_call hcalm hcall htouch
      (hcalm.call_ne_of_place hd hplace hne hbackend hcall.backend_get) hdcall _

namespace Mirrors

/-- Where a client of the port has a call, the other service has one that looks the same. -/
theorem caller (h : Mirrors c port s t) {g n : Nat} (hplace : s.placeAt? port g = some n)
    {client : Client} {b : Backend} {own : Call} (hcall : s.HasCall g client b own) :
    ∃ client' b' own', t.HasCall n client' b' own' ∧ client'.backend = client.backend ∧
      (t.clientsOf port)[n]? = some client' ∧ b'.asConfigured = b.asConfigured ∧
      b'.guest (heldBy (t.lane? port) t.backends client.backend) own' =
        b.guest (heldBy (s.lane? port) s.backends client.backend) own := by
  obtain ⟨client₀, hclient, -, hget⟩ := get_of_place hplace
  obtain rfl := Option.some.inj (hcall.client_get.symm.trans hclient)
  have hguest : (glances s.backends (heldBy (s.lane? port) s.backends)
      (s.clientsOf port))[n]? = some (client.backend,
        some (b.guest (heldBy (s.lane? port) s.backends client.backend) own)) :=
    glances_get.mpr ⟨client, b, own, hget, rfl, hcall.backend_get, hcall.call_get, rfl⟩
  rw [← h.guests] at hguest
  obtain ⟨client', b', own', hget', hbackend, hb', hown', hsame⟩ := glances_get.mp hguest
  obtain ⟨b₀, hb₀, hconfigured⟩ := h.backend hcall.backend_get
  obtain rfl := Option.some.inj (hb'.symm.trans hb₀)
  have hclient' := hget'
  rw [clientsOf_of_all h.all] at hclient'
  exact ⟨client', b', own', ⟨hclient', hbackend ▸ hb', hown'⟩, hbackend, hget', hconfigured, hsame⟩

/-- The calls of a client take steps that look the same. -/
theorem call_matches (h : Mirrors c port s t) {g n : Nat} (hplace : s.placeAt? port g = some n)
    {client client' : Client} {b b' : Backend} {own own' : Call} {registry registry' : Registry}
    {stage stage' : Call.Stage} {action : Action} {effects : List (Component × Effect)}
    (hcall : s.HasCall g client b own) (hcall' : t.HasCall n client' b' own')
    (htouch : Backend.Touch b own.generation own.stage registry stage)
    (htouch' : Backend.Touch b' own'.generation own'.stage registry' stage')
    (hget : (t.clientsOf port)[n]? = some client') (hbackend : client'.backend = client.backend)
    (hquiet : action.isQuiet = true)
    (hstep : t.step now time action =
      some (t.withCall client' b' registry' { own' with stage := stage' }, effects))
    (hseen : t.seenAt port action = some action)
    (hsame : (b'.withCall registry' client'.call { own' with stage := stage' }).guest
        (heldBy (t.lane? port) t.backends client.backend) { own' with stage := stage' } =
      (b.withCall registry client.call { own with stage }).guest
        (heldBy (s.lane? port) s.backends client.backend) { own with stage }) :
    t.Matches port now time action (s.withCall client b registry { own with stage }) := by
  obtain ⟨client₀, hclient, -, hget₀⟩ := get_of_place hplace
  obtain rfl := Option.some.inj (hcall.client_get.symm.trans hclient)
  refine ⟨action, _, effects, hquiet, hstep, hseen, ?_, ?_, h.all⟩
  · rw [sight_of_call h.calm' hcall' htouch' hget, sight_of_call h.calm hcall htouch hget₀,
      h.same, hbackend, hsame]
  · cases port <;> rfl

/-- The call of a client goes on by itself. -/
theorem step_call_matches (h : Mirrors c port s t) {g n : Nat}
    (hplace : s.placeAt? port g = some n) {effects : List (Component × Effect)}
    (hstep : s.step now time (.stepCall g) = some (s', effects)) :
    t.Matches port now time (.stepCall n) s' := by
  obtain ⟨client, b, own, registry, stage, hcall, hadvance, rfl⟩ :=
    (step_call_iff h.calm.sound.placed).mp ⟨effects, hstep⟩
  obtain ⟨client', b', own', hcall', hbackend, hget, -, hsame⟩ := h.caller hplace hcall
  have hnext := hadvance.next_guest (h.calm.sound.consistent hcall.backend_get) hcall.call_get
    (h.calm.held_lt_created port hcall.backend_get)
  rw [← hsame] at hnext
  obtain ⟨registry', stage', hadvance'⟩ := Backend.advance_of_next_guest hnext
  have hnext' := hadvance'.next_guest (h.calm'.sound.consistent hcall'.backend_get) hcall'.call_get
    (h.calm'.held_lt_created port hcall'.backend_get)
  rw [hbackend] at hnext'
  obtain ⟨effects', hstep'⟩ : ∃ effects', t.step now time (.stepCall n) =
      some (t.withCall client' b' registry' { own' with stage := stage' }, effects') :=
    (step_call_iff h.calm'.sound.placed).mpr
      ⟨client', b', own', registry', stage', hcall', hadvance', rfl⟩
  refine h.call_matches hplace hcall hcall' (.advance hadvance) (.advance hadvance') hget hbackend
    rfl hstep' ?_ ?_
  · simp [seenAt, place_of_all h.all hcall'.client_get]
  · exact Option.some.inj (hnext'.symm.trans hnext)

/-- The dial for a client ends. -/
theorem end_dial_matches (h : Mirrors c port s t) {g n : Nat} (hplace : s.placeAt? port g = some n)
    {result : Except String Duplex} {effects : List (Component × Effect)}
    (hstep : s.step now time (.endDial g result) = some (s', effects)) :
    t.Matches port now time (.endDial n result) s' := by
  obtain ⟨client, b, ⟨generation, stage⟩, duplex, hcall, rfl, rfl⟩ :=
    (end_dial_iff h.calm.sound.placed result).mp ⟨effects, hstep⟩
  obtain ⟨client', b', ⟨generation', stage'⟩, hcall', hbackend, hget, hconfigured, hsame⟩ :=
    h.caller hplace hcall
  obtain rfl : stage' = .dialing duplex := by
    have hstage := congrArg Guest.stage hsame
    cases stage' with
    | dialing duplex' => exact hstage
    | failed _ _ => cases hstage
    | dialed _ _ => cases hstage
    | bridged _ _ _ => cases hstage
  obtain ⟨effects', hstep'⟩ : ∃ effects', t.step now time (.endDial n result) =
      some (t.withCall client' b' b'.registry ⟨generation', dialEnded b' duplex result⟩,
        effects') :=
    (end_dial_iff h.calm'.sound.placed result).mpr ⟨client', b', _, duplex, hcall', rfl, rfl⟩
  have htouch : ∀ (d : Backend) (generation : Nat), Backend.Touch d generation (.dialing duplex)
      d.registry (dialEnded d duplex result) := by
    intro d generation
    cases result with
    | ok server => exact .succeed duplex server
    | error detail => exact .fail duplex (d.dialError detail)
  refine h.call_matches hplace hcall hcall' (htouch b generation) (htouch b' generation') hget
    hbackend rfl hstep' ?_ ?_
  · simp [seenAt, place_of_all h.all hcall'.client_get]
  · cases result with
    | ok server =>
        simp only [dialEnded, Backend.guest_dialed, hsame]
    | error detail =>
        have herror : b'.dialError detail = b.dialError detail := by
          show b'.asConfigured.dialError detail = b.asConfigured.dialError detail
          rw [hconfigured]
        simp only [dialEnded, herror]
        rw [Backend.guest_failed _ _ duplex, Backend.guest_failed _ _ duplex, hsame]

/-- Something comes from a far end of the call of a client. -/
theorem far_event_matches (h : Mirrors c port s t) {g n : Nat}
    (hplace : s.placeAt? port g = some n) (side : FarEnd) (event : Duplex.FarEvent)
    {effects : List (Component × Effect)}
    (hstep : s.step now time (.far side g event) = some (s', effects)) :
    t.Matches port now time (.far side n event) s' := by
  obtain ⟨client, b, own, hcall, rfl⟩ :=
    (far_event_iff h.calm.sound.placed side event).mp ⟨effects, hstep⟩
  obtain ⟨client', b', own', hcall', hbackend, hget, -, hsame⟩ := h.caller hplace hcall
  obtain ⟨effects', hstep'⟩ : ∃ effects', t.step now time (.far side n event) =
      some (t.withCall client' b' b'.registry (own'.mapFar side fun d => d.afterFar event),
        effects') :=
    (far_event_iff h.calm'.sound.placed side event).mpr ⟨client', b', own', hcall', rfl⟩
  obtain ⟨stage, heq, hevent⟩ := map_far_outside side event own
  obtain ⟨stage', heq', hevent'⟩ := map_far_outside side event own'
  rw [heq'] at hstep'
  rw [heq]
  refine h.call_matches hplace hcall hcall' (.outside hevent) (.outside hevent') hget hbackend
    ?_ hstep' ?_ ?_
  · cases side <;> rfl
  · cases side <;> simp [Action.far, seenAt, place_of_all h.all hcall'.client_get]
  · have hstage : own'.stage.unnumbered = own.stage.unnumbered := congrArg Guest.stage hsame
    rw [← heq, ← heq', Backend.guest_map_far, Backend.guest_map_far, hsame, hstage]

end Mirrors

end GaleraProxy.Service
