import GaleraProxy.Proofs.Service.Calls
import GaleraProxy.Proofs.Service.Sight

/-!
# How a port sees the severs of its runner

While a runner severs a backend, the guests of its port change with each step: all of them lose
their generation when the sever begins, the registered ones are taken by the sweep, and one after
the other is closed. What happens to other bridges is not seen.
-/

namespace GaleraProxy

/-- A guest at a backend that a sever begins at. -/
def Guest.outdated (g : Guest) : Guest := { g with present := false }

/-- A guest at a backend whose registry is swept. -/
def Guest.taken (g : Guest) : Guest := { g with registered := false, swept := g.registered }

/-- What a sever of the backend at a place has yet to close, at every backend. -/
def Sever.leftAt (i : Nat) (sever : Sever) (j : Nat) : List BridgeId :=
  if i = j then sever.left else []

namespace Service

variable {c : Config} {s : Service} {port : ProxyPort} {lane : Lane} {backends : List Backend}
  {clients : List Client} {logger : Option (StatusLogger.Phase × Duration)} {i k : Nat}
  {b next : Backend} {sever sever' : Sever}

/-- What a port sees while its runner is at a sever. -/
theorem sight_of_attends (hattends : lane.runner.Attends i k) (hb : backends[i]? = some b)
    (hsever : b.severs[k]? = some sever) :
    sightOf (some lane) backends clients logger =
      { lane := some ⟨lane.monitor, lane.runner.unnumbered, some sever.unnumbered⟩
        guests := glances backends (sever.leftAt i) clients
        logger } := by
  have hheld : heldBy (some lane) backends = sever.leftAt i :=
    funext fun j => Runner.held_of_attends hattends hb hsever j
  have hlane : lane.sight backends =
      ⟨lane.monitor, lane.runner.unnumbered, some sever.unnumbered⟩ := by
    simp [Lane.sight, Runner.sever_of_attends hattends, hb, hsever]
  rw [sightOf, hheld, Option.map_some, hlane]

/-- What a port sees while its runner waits. -/
theorem sight_of_idle (hidle : lane.runner.task = .idle) :
    sightOf (some lane) backends clients logger =
      { lane := some ⟨lane.monitor, lane.runner, none⟩
        guests := glances backends (fun _ => []) clients
        logger } := by
  have hheld : heldBy (some lane) backends = fun _ => [] :=
    funext fun j => Runner.held_of_idle hidle backends j
  have hlane : lane.sight backends = ⟨lane.monitor, lane.runner, none⟩ := by
    simp [Lane.sight, Runner.unnumbered_of_idle hidle, Runner.sever?, hidle]
  rw [sightOf, hheld, Option.map_some, hlane]

/-- A sever with nothing left to close holds nothing. -/
theorem left_at_of_nil (h : sever.left = []) : sever.leftAt i = fun _ => [] := by
  funext j
  simp [Sever.leftAt, h]

/-- A sever begins. -/
theorem glances_begin_sever (hb : backends[i]? = some b) (hplaced : Placed backends clients)
    (hle : ∀ client ∈ clients, client.backend = i →
      ∀ call, b.calls[client.call]? = some call → call.generation ≤ b.generation) :
    glances (backends.set i b.beginSever.1) (fun _ => []) clients =
      mapAt i Guest.outdated (glances backends (fun _ => []) clients) :=
  glances_set hb hplaced (fun _ _ => rfl) Guest.outdated fun client hclient hj call hcall =>
    ⟨call, hcall, Backend.guest_begin_sever (hle client hclient hj call hcall)⟩

/-- No client of a port has a call of a generation that is yet to come. -/
theorem Calm.generation_le (hcalm : s.Calm c) (hlane : s.lane? port = some lane)
    (hb : s.backends[i]? = some b) :
    ∀ client ∈ s.clientsOf port, client.backend = i →
      ∀ call, b.calls[client.call]? = some call → call.generation ≤ b.generation := by
  intro client hclient hi call hcall
  obtain ⟨hmem, hport⟩ := mem_clientsOf.mp hclient
  refine (hcalm.sound.answers hlane hb hcall ?_).1
  obtain ⟨p, j, n⟩ := client
  obtain ⟨rfl, rfl⟩ : p = port ∧ j = i := ⟨hport, hi⟩
  exact hmem

/-- What a port sees once its runner has begun to sever a backend. -/
theorem Calm.sight_of_begun (hcalm : s.Calm c) (hlane : s.lane? port = some lane)
    (hb : s.backends[i]? = some b) (m : Monitor) (change : Runner.Change) :
    sightOf (some ⟨m, { lane.runner with task := .severing i b.severs.length change }⟩)
        (s.backends.set i b.beginSever.1) (s.clientsOf port) logger =
      { lane := some ⟨m, { lane.runner with task := .severing i 0 change }, some .raised⟩
        guests := mapAt i Guest.outdated (glances s.backends (fun _ => []) (s.clientsOf port))
        logger } := by
  have hraised : b.beginSever.1.severs[b.severs.length]? = some .raised :=
    List.getElem?_concat_length
  rw [sight_of_attends ⟨change, rfl⟩ (getElem?_set_self_of_getElem? hb _) hraised,
    left_at_of_nil rfl, glances_begin_sever hb (hcalm.placed port) (hcalm.generation_le hlane hb)]
  rfl

/-- A sever sweeps the registry. -/
theorem glances_sweep (hb : backends[i]? = some b) (hplaced : Placed backends clients)
    (severs : List Sever) :
    glances (backends.set i (b.swept severs)) (Sever.leftAt i (.closing b.registry.members))
        clients = mapAt i Guest.taken (glances backends (Sever.leftAt i .raised) clients) := by
  refine glances_set hb hplaced (fun j hj => ?_) Guest.taken fun client hclient hj call hcall => ?_
  · simp [Sever.leftAt, Ne.symm hj]
  · refine ⟨call, hcall, ?_⟩
    simp only [Sever.leftAt, if_true]
    exact Backend.guest_sweep severs call

/-- What a port sees once the sever of its runner has swept the registry. -/
theorem sight_of_swept (hattends : lane.runner.Attends i k) (hb : backends[i]? = some b)
    (hraised : b.severs[k]? = some .raised) (hplaced : Placed backends clients) :
    sightOf (some lane)
        (backends.set i (b.swept (b.severs.set k (.closing b.registry.members)))) clients logger =
      { lane := some ⟨lane.monitor, lane.runner.unnumbered, some (.closing [])⟩
        guests := mapAt i Guest.taken (glances backends (fun _ => []) clients)
        logger } := by
  rw [sight_of_attends hattends (getElem?_set_self_of_getElem? hb _)
      (getElem?_set_self_of_getElem? hraised _), glances_sweep hb hplaced, left_at_of_nil rfl]
  rfl

/-- A sever returns. -/
theorem glances_conclude (hb : backends[i]? = some b) (hplaced : Placed backends clients)
    (severs : List Sever) (held : Nat → List BridgeId) :
    glances (backends.set i { b with severs }) held clients = glances backends held clients :=
  glances_set_same hb hplaced fun _ _ _ call hcall => ⟨call, hcall, rfl⟩

/-- What a port sees once the sever of its runner has returned. -/
theorem sight_of_concluded (hattends : lane.runner.Attends i k) (hb : backends[i]? = some b)
    (hclosing : b.severs[k]? = some (.closing [])) (hplaced : Placed backends clients) :
    sightOf (some lane) (backends.set i { b with severs := b.severs.set k .returned }) clients
        logger =
      { lane := some ⟨lane.monitor, lane.runner.unnumbered, some .returned⟩
        guests := glances backends (fun _ => []) clients
        logger } := by
  rw [sight_of_attends hattends (getElem?_set_self_of_getElem? hb _)
      (getElem?_set_self_of_getElem? hclosing _), glances_conclude hb hplaced, left_at_of_nil rfl]
  rfl

variable {ids : List BridgeId} {id : BridgeId} {pick : Nat}

/-- A call at a backend where a sever closes a bridge. -/
theorem guest_closed (hnodup : ids.Nodup) (hid : ids[pick]? = some id) (severs : List Sever)
    {n : Nat} {call : Call} (hcall : b.calls[n]? = some call) :
    (b.closed id severs).calls[n]? = some (call.closeBridge id) ∧
      (b.closed id severs).guest (Sever.leftAt i (.closing (ids.eraseIdx pick)) i)
          (call.closeBridge id) =
        if call.hasBridge id then (b.guest (Sever.leftAt i (.closing ids) i) call).closed
        else b.guest (Sever.leftAt i (.closing ids) i) call := by
  refine ⟨by simp [Backend.closed, hcall], ?_⟩
  simp only [Sever.leftAt, if_true]
  exact Backend.guest_close severs hnodup hid call

/-- A sever closes the bridge of a client. -/
theorem glances_close (hb : backends[i]? = some b) (hplaced : Placed backends clients)
    (hnodup : ids.Nodup) (hid : ids[pick]? = some id) (severs : List Sever) {n : Nat}
    {client : Client} {call : Call} (hclient : clients[n]? = some client)
    (hi : client.backend = i) (hcall : b.calls[client.call]? = some call)
    (hhas : call.hasBridge id = true)
    (hothers : ∀ m d, clients[m]? = some d → m ≠ n → d.backend = i →
      ∀ call, b.calls[d.call]? = some call → call.hasBridge id = false) :
    glances (backends.set i (b.closed id severs))
        (Sever.leftAt i (.closing (ids.eraseIdx pick))) clients =
      (glances backends (Sever.leftAt i (.closing ids)) clients).set n
        (i, some (b.guest ids call).closed) := by
  obtain ⟨hcall', hguest⟩ := guest_closed (i := i) hnodup hid severs hcall
  rw [if_pos hhas] at hguest
  have hset : glances (backends.set i (b.closed id severs))
        (Sever.leftAt i (.closing (ids.eraseIdx pick))) clients =
      (glances backends (Sever.leftAt i (.closing ids)) clients).set n
        (i, some ((b.closed id severs).guest (Sever.leftAt i (.closing (ids.eraseIdx pick)) i)
          (call.closeBridge id))) := by
    refine glances_set_one hb hplaced (fun j hj => ?_) hclient hi hcall'
      fun m d hd hm hdi e he => ?_
    · simp [Sever.leftAt, Ne.symm hj]
    · obtain ⟨he', hother⟩ := guest_closed (i := i) hnodup hid severs he
      rw [hothers m d hd hm hdi e he] at hother
      exact ⟨_, he', hother⟩
  rw [hset, hguest]
  simp [Sever.leftAt, Sever.left]

/-- What a port sees once the sever of its runner has closed the bridge of a client. -/
theorem sight_of_closed (hattends : lane.runner.Attends i k) (hb : backends[i]? = some b)
    (hsever : b.severs[k]? = some (.closing ids)) (hplaced : Placed backends clients)
    (hnodup : ids.Nodup) (hid : ids[pick]? = some id) {n : Nat} {client : Client} {call : Call}
    (hclient : clients[n]? = some client) (hi : client.backend = i)
    (hcall : b.calls[client.call]? = some call) (hhas : call.hasBridge id = true)
    (hothers : ∀ m d, clients[m]? = some d → m ≠ n → d.backend = i →
      ∀ call, b.calls[d.call]? = some call → call.hasBridge id = false) :
    sightOf (some lane)
        (backends.set i (b.closed id (b.severs.set k (.closing (ids.eraseIdx pick))))) clients
        logger =
      { lane := some ⟨lane.monitor, lane.runner.unnumbered, some (.closing [])⟩
        guests := (glances backends (Sever.leftAt i (.closing ids)) clients).set n
          (i, some (b.guest ids call).closed)
        logger } := by
  rw [sight_of_attends hattends (getElem?_set_self_of_getElem? hb _)
      (getElem?_set_self_of_getElem? hsever _),
    glances_close hb hplaced hnodup hid _ hclient hi hcall hhas hothers]
  rfl

/-- A sever closes a bridge of nobody. -/
theorem glances_close_foreign (hb : backends[i]? = some b) (hplaced : Placed backends clients)
    (hnodup : ids.Nodup) (hid : ids[pick]? = some id) (severs : List Sever)
    (hforeign : ∀ d ∈ clients, d.backend = i →
      ∀ call, b.calls[d.call]? = some call → call.hasBridge id = false) :
    glances (backends.set i (b.closed id severs))
        (Sever.leftAt i (.closing (ids.eraseIdx pick))) clients =
      glances backends (Sever.leftAt i (.closing ids)) clients := by
  refine (glances_set hb hplaced (fun j hj => ?_) (fun g => g) fun d hd hdi e he => ?_).trans
    (mapAt_id i _)
  · simp [Sever.leftAt, Ne.symm hj]
  · obtain ⟨he', hguest⟩ := guest_closed (i := i) hnodup hid severs he
    rw [hforeign d hd hdi e he] at hguest
    exact ⟨_, he', hguest⟩

end Service

end GaleraProxy
