import GaleraProxy.Proofs.Service.Mirroring.Basic

/-!
# Steps of severs

The runner of a port that severs a backend closes the bridges of the same clients in two services
that look the same, although the bridges have other numbers there.
-/

namespace GaleraProxy.Service

variable {c : Config} {s s' t : Service} {port : ProxyPort} {now : Moment} {time : Timestamp}

namespace Mirrors

/-- The severs that the runners are at look the same, and so do the guests. -/
theorem at_sever (h : Mirrors c port s t) {lane : Lane} (hlane : s.lane? port = some lane)
    {i k : Nat} {change : Runner.Change} (htask : lane.runner.task = .severing i k change)
    {b : Backend} (hb : s.backends[i]? = some b) {sever : Sever}
    (hsever : b.severs[k]? = some sever) :
    ∃ lane' k' b' sever', t.lane? port = some lane' ∧ lane'.monitor = lane.monitor ∧
      lane'.runner = { lane.runner with task := .severing i k' change } ∧
      t.backends[i]? = some b' ∧ b'.severs[k']? = some sever' ∧
      sever'.unnumbered = sever.unnumbered ∧
      glances t.backends (sever'.leftAt i) (t.clientsOf port) =
        glances s.backends (sever.leftAt i) (s.clientsOf port) := by
  obtain ⟨lane', hlane', hmonitor, hrunner, hkind⟩ := h.lane hlane
  obtain ⟨k', hrunner'⟩ := Runner.task_of_unnumbered hrunner htask
  have hattends : lane.runner.Attends i k := ⟨change, htask⟩
  have hattends' : lane'.runner.Attends i k' := ⟨change, by rw [hrunner']⟩
  obtain ⟨b', hb', hlt⟩ := h.calm'.quiet.begun hlane' hattends'
  have hsever' := List.getElem?_eq_getElem hlt
  refine ⟨lane', k', b', _, hlane', hmonitor, hrunner', hb', hsever', ?_, ?_⟩
  · rw [Runner.sever_of_attends hattends, Runner.sever_of_attends hattends', hb, hb',
      Option.bind_some, Option.bind_some, hsever, hsever'] at hkind
    exact Option.some.inj hkind
  · have hsame := h.same
    rw [sight, sight, hlane, hlane', sight_of_attends hattends hb hsever,
      sight_of_attends hattends' hb' hsever'] at hsame
    exact congrArg Sight.guests hsame

end Mirrors

/-! ## Bridges that are being closed -/

/-- A guest is swept if its bridge is among those that are left. -/
theorem swept_iff {b : Backend} {held : List BridgeId} {call : Call} :
    (b.guest held call).swept = true ↔ ∃ id ∈ held, call.hasBridge id = true := by
  simp only [Backend.guest, Option.any_eq_true, List.contains_iff_mem, Backend.hasBridge_iff]
  constructor
  · rintro ⟨id, hid, hmem⟩
    exact ⟨id, hmem, hid⟩
  · rintro ⟨id, hmem, hid⟩
    exact ⟨id, hid, hmem⟩

/-- No two clients of a port have the same bridge. -/
theorem Calm.bridge_ne (hcalm : s.Calm c) {i m n : Nat} {client d : Client} {b : Backend}
    {call e : Call} {id : BridgeId} (hclient : (s.clientsOf port)[n]? = some client)
    (hd : (s.clientsOf port)[m]? = some d) (hne : m ≠ n) (hi : client.backend = i)
    (hdi : d.backend = i) (hb : s.backends[i]? = some b) (hcall : b.calls[client.call]? = some call)
    (he : b.calls[d.call]? = some e) (hhas : call.hasBridge id = true) :
    e.hasBridge id = false := by
  rw [← Bool.not_eq_true]
  intro hboth
  refine hcalm.call_ne_of_place hd hclient hne (hdi.trans hi.symm) (hi ▸ hb) ?_
  exact (hcalm.sound.consistent hb).unique he hcall (Backend.hasBridge_iff.mp hboth)
    (Backend.hasBridge_iff.mp hhas)

/-- The holder of a bridge. -/
theorem get_of_holder {i n : Nat} {id : BridgeId} {b : Backend} (hb : s.backends[i]? = some b)
    (h : s.holder? port (i, id) = some n) :
    ∃ client call, (s.clientsOf port)[n]? = some client ∧ client.backend = i ∧
      b.calls[client.call]? = some call ∧ call.hasBridge id = true := by
  obtain ⟨hlt, hholds, -⟩ := List.findIdx?_eq_some_iff_getElem.mp h
  simp only [Bool.and_eq_true, beq_iff_eq] at hholds
  obtain ⟨hi, hany⟩ := hholds
  obtain ⟨call, hcall, hhas⟩ := (Option.any_eq_true _ _).mp hany
  rw [call?, hi, hb, Option.bind_some] at hcall
  exact ⟨_, call, List.getElem?_eq_getElem hlt, hi, hcall, hhas⟩

/-- The client that has a bridge holds it. -/
theorem Calm.holder_of_get (hcalm : s.Calm c) {i n : Nat} {id : BridgeId} {b : Backend}
    {client : Client} {call : Call} (hb : s.backends[i]? = some b)
    (hclient : (s.clientsOf port)[n]? = some client) (hi : client.backend = i)
    (hcall : b.calls[client.call]? = some call) (hhas : call.hasBridge id = true) :
    s.holder? port (i, id) = some n := by
  obtain ⟨hlt, heq⟩ := List.getElem?_eq_some_iff.mp hclient
  refine List.findIdx?_eq_some_iff_getElem.mpr ⟨hlt, ?_, fun m hm => ?_⟩
  · simp [heq, hi, call?, hb, hcall, hhas]
  · have hd := List.getElem?_eq_getElem (Nat.lt_trans hm hlt)
    rw [Bool.and_eq_true, not_and, beq_iff_eq]
    intro hdi hany
    obtain ⟨e, he, hboth⟩ := (Option.any_eq_true _ _).mp hany
    rw [call?, hdi, hb, Option.bind_some] at he
    have hnot := hcalm.bridge_ne hclient hd (Nat.ne_of_lt hm) hi hdi hb hcall he hhas
    cases hnot.symm.trans hboth

/-- A runner whose sever has nothing left at a place closes no bridge. -/
theorem closing_eq_none {lane : Lane} (hlane : s.lane? port = some lane) {i k pick : Nat}
    (hattends : lane.runner.Attends i k) {b : Backend} (hb : s.backends[i]? = some b)
    {sever : Sever} (hsever : b.severs[k]? = some sever) (hleft : sever.left[pick]? = none) :
    s.closing? port pick = none := by
  cases hclosing : s.closing? port pick with
  | none => rfl
  | some bridge =>
      obtain ⟨j, id⟩ := bridge
      obtain ⟨own, n, d, ids, hown, hattends', hd, hids, hid⟩ := closing_iff.mp hclosing
      obtain rfl := Option.some.inj (hlane.symm.trans hown)
      obtain ⟨change, htask⟩ := hattends
      obtain ⟨change', htask'⟩ := hattends'
      obtain ⟨rfl, rfl, -⟩ := Runner.Task.severing.inj (htask.symm.trans htask')
      obtain rfl := Option.some.inj (hb.symm.trans hd)
      obtain rfl := Option.some.inj (hsever.symm.trans hids)
      cases hid.symm.trans hleft

theorem seen_of_closing_none {pick : Nat} (h : s.closing? port pick = none) :
    s.seenAt port (.stepRunner port pick) = some (.stepRunner port 0) := by
  simp [seenAt, h]

namespace Mirrors

/-- Where nothing is left to close for the one service, nothing is for the other. -/
theorem left_nil (h : Mirrors c port s t) {i k : Nat} {b : Backend} {ids : List BridgeId}
    (hb : t.backends[i]? = some b) (hsever : b.severs[k]? = some (.closing ids))
    (hguests : glances t.backends (Sever.leftAt i (.closing ids)) (t.clientsOf port) =
      glances s.backends (fun _ => []) (s.clientsOf port)) : ids = [] := by
  refine List.eq_nil_iff_forall_not_mem.mpr fun id hid => ?_
  -- the bridge would be that of a client of the port, whose guest would be swept
  obtain ⟨n, call, hcall, hown⟩ := (h.calm'.quiet.tidy hb).owned hsever hid
  obtain ⟨client, hclient, hi, rfl⟩ :=
    h.calm'.quiet.covered hb (List.getElem?_eq_some_iff.mp hcall).1
  rw [← clientsOf_of_all h.all] at hclient
  obtain ⟨m, hm⟩ := List.getElem?_of_mem hclient
  have hguest : (glances t.backends (Sever.leftAt i (.closing ids)) (t.clientsOf port))[m]? =
      some (i, some (b.guest (Sever.leftAt i (.closing ids) i) call)) :=
    glances_get.mpr ⟨client, b, call, hm, hi, hb, hcall, rfl⟩
  rw [hguests] at hguest
  obtain ⟨d, e, f, -, -, -, -, heq⟩ := glances_get.mp hguest
  have hswept : (b.guest (Sever.leftAt i (.closing ids) i) call).swept = true := by
    rw [swept_iff]
    exact ⟨id, by simpa [Sever.leftAt, Sever.left] using hid, Backend.hasBridge_iff.mpr hown⟩
  rw [← heq, swept_iff] at hswept
  obtain ⟨own, hmem, -⟩ := hswept
  cases hmem

/-- Severs that have nothing left to close are at the same point. -/
theorem at_sever_of_nil (h : Mirrors c port s t) {lane : Lane} (hlane : s.lane? port = some lane)
    {i k : Nat} {change : Runner.Change} (htask : lane.runner.task = .severing i k change)
    {b : Backend} (hb : s.backends[i]? = some b) {sever : Sever}
    (hsever : b.severs[k]? = some sever) (hleft : sever.left = []) :
    ∃ lane' k' b', t.lane? port = some lane' ∧ lane'.monitor = lane.monitor ∧
      lane'.runner = { lane.runner with task := .severing i k' change } ∧
      t.backends[i]? = some b' ∧ b'.severs[k']? = some sever ∧
      glances t.backends (fun _ => []) (t.clientsOf port) =
        glances s.backends (fun _ => []) (s.clientsOf port) := by
  obtain ⟨lane', k', b', sever', hlane', hmonitor, hrunner, hb', hsever', hkind, hguests⟩ :=
    h.at_sever hlane htask hb hsever
  rw [left_at_of_nil hleft] at hguests
  obtain rfl : sever' = sever := by
    cases sever with
    | raised => exact Sever.eq_of_unnumbered hkind (by simp)
    | returned => exact Sever.eq_of_unnumbered hkind (by simp)
    | closing ids =>
        obtain ⟨ids', rfl⟩ := Sever.closing_of_unnumbered hkind
        obtain rfl : ids = [] := hleft
        rw [h.left_nil hb' hsever' hguests]
  rw [left_at_of_nil hleft] at hguests
  exact ⟨lane', k', b', hlane', hmonitor, hrunner, hb', hsever', hguests⟩

/-- The sever of the port's runner takes a step that closes no bridge, or the change takes effect
after it. -/
theorem step_sever_matches (h : Mirrors c port s t) {lane : Lane} (hlane : s.lane? port = some lane)
    {i k pick : Nat} {change : Runner.Change} (htask : lane.runner.task = .severing i k change)
    {b : Backend} (hb : s.backends[i]? = some b) {sever : Sever}
    (hsever : b.severs[k]? = some sever) (hleft : sever.left = [])
    {effects : List (Component × Effect)} (hstep : s.stepRunner port pick = some (s', effects)) :
    t.Matches port now time (.stepRunner port 0) s' := by
  obtain ⟨lane', k', b', hlane', hmonitor, hrunner, hb', hsever', hguests⟩ :=
    h.at_sever_of_nil hlane htask hb hsever hleft
  have htask' : lane'.runner.task = .severing i k' change := by rw [hrunner]
  have hseen : t.seenAt port (.stepRunner port 0) = some (.stepRunner port 0) :=
    seen_of_closing_none (closing_eq_none hlane' ⟨change, htask'⟩ hb' hsever' (by rw [hleft]; rfl))
  have hlogger := h.logger
  rcases (step_runner_at hlane htask hb).mp ⟨effects, hstep⟩ with
    ⟨hreturned, rfl⟩ | ⟨next, hnext, rfl⟩
  · -- the change takes effect
    obtain rfl := Option.some.inj (hsever.symm.trans hreturned)
    obtain ⟨effects', hstep'⟩ : ∃ effects', t.stepRunner port 0 = some (t.withLane port
        { lane' with runner := (lane'.runner.applyChange t.backends change).1 } t.backends,
        effects') := (step_runner_at hlane' htask' hb').mpr (.inl ⟨hsever', rfl⟩)
    refine h.matches_with_lane (.stepRunner port 0) rfl hstep' hseen ?_
    have hsame : (lane'.runner.applyChange t.backends change).1 =
        (lane.runner.applyChange s.backends change).1 := by
      rw [hrunner]
      cases change <;> rfl
    have hidle : (lane.runner.applyChange s.backends change).1.task = .idle := by
      cases change <;> rfl
    rw [hsame, sight_with_lane, sight_with_lane, sight_of_idle hidle, sight_of_idle hidle,
      hguests, hlogger, hmonitor]
  · -- the sever sweeps or returns
    have hsame : lane'.runner.unnumbered = lane.runner.unnumbered := by
      simp [hrunner, Runner.unnumbered, htask]
    obtain ⟨next', hnext', hsight⟩ : ∃ next',
        (∃ effects, b'.stepSever k' 0 = some (next', effects)) ∧
        sightOf (some lane') (t.backends.set i next') (t.clientsOf port) (t.loggerFor port) =
          sightOf (some lane) (s.backends.set i next) (s.clientsOf port) (s.loggerFor port) := by
      rcases Backend.step_sever_iff.mp hnext with
        ⟨hraised, rfl⟩ | ⟨hnil, rfl⟩ | ⟨ids, id, hids, hid, -⟩
      · obtain rfl := Option.some.inj (hsever.symm.trans hraised)
        refine ⟨_, Backend.step_sever_iff.mpr (.inl ⟨hsever', rfl⟩), ?_⟩
        rw [sight_of_swept ⟨change, htask'⟩ hb' hsever' (h.calm'.placed port),
          sight_of_swept ⟨change, htask⟩ hb hsever (h.calm.placed port), hguests, hlogger, hmonitor,
          hsame]
      · obtain rfl := Option.some.inj (hsever.symm.trans hnil)
        refine ⟨_, Backend.step_sever_iff.mpr (.inr (.inl ⟨hsever', rfl⟩)), ?_⟩
        rw [sight_of_concluded ⟨change, htask'⟩ hb' hsever' (h.calm'.placed port),
          sight_of_concluded ⟨change, htask⟩ hb hsever (h.calm.placed port), hguests, hlogger,
          hmonitor, hsame]
      · obtain rfl := Option.some.inj (hsever.symm.trans hids)
        obtain rfl : ids = [] := hleft
        cases hid
    obtain ⟨effects', hstep'⟩ : ∃ effects', t.stepRunner port 0 =
        some (t.withLane port lane' (t.backends.set i next'), effects') :=
      (step_runner_at hlane' htask' hb').mpr (.inr ⟨next', hnext', rfl⟩)
    refine h.matches_with_lane (.stepRunner port 0) rfl hstep' hseen ?_
    rw [sight_with_lane, sight_with_lane, hsight]

/-- The runner of the port closes the bridge of one of its clients. -/
theorem close_bridge_matches (h : Mirrors c port s t) {pick n : Nat} {bridge : Nat × BridgeId}
    {effects : List (Component × Effect)} (hstep : s.stepRunner port pick = some (s', effects))
    (hclosing : s.closing? port pick = some bridge) (hholder : s.holder? port bridge = some n) :
    t.Matches port now time (.stepRunner port n) s' := by
  obtain ⟨i, id⟩ := bridge
  obtain ⟨lane, k, b, ids, hlane, ⟨change, htask⟩, hb, hsever, hid⟩ := closing_iff.mp hclosing
  obtain ⟨client, call, hclient, hi, hcall, hhas⟩ := get_of_holder hb hholder
  obtain ⟨lane', k', b', sever', hlane', hmonitor, hrunner, hb', hsever', hkind, hguests⟩ :=
    h.at_sever hlane htask hb hsever
  obtain ⟨ids', rfl⟩ := Sever.closing_of_unnumbered hkind
  have htask' : lane'.runner.task = .severing i k' change := by rw [hrunner]
  have hleft : ∀ l : List BridgeId, Sever.leftAt i (.closing l) i = l := by
    simp [Sever.leftAt, Sever.left]
  -- the client at the same place has a bridge that is to be closed as well
  have hguest : (glances s.backends (Sever.leftAt i (.closing ids)) (s.clientsOf port))[n]? =
      some (i, some (b.guest ids call)) :=
    glances_get.mpr ⟨client, b, call, hclient, hi, hb, hcall, by rw [hleft]⟩
  rw [← hguests] at hguest
  obtain ⟨client', own, call', hclient', hi', hown, hcall', hsame⟩ := glances_get.mp hguest
  obtain rfl := Option.some.inj (hb'.symm.trans hown)
  rw [hleft] at hsame
  obtain ⟨id', hmem', hhas'⟩ : ∃ id' ∈ ids', call'.hasBridge id' = true := by
    rw [← swept_iff (b := b'), hsame, swept_iff]
    exact ⟨id, List.mem_of_getElem? hid, hhas⟩
  obtain ⟨pick', hid'⟩ := List.getElem?_of_mem hmem'
  have hclosing' : t.closing? port pick' = some (i, id') :=
    closing_iff.mpr ⟨lane', k', b', ids', hlane', ⟨change, htask'⟩, hb', hsever', hid'⟩
  have hholder' : t.holder? port (i, id') = some n :=
    h.calm'.holder_of_get hb' hclient' hi' hcall' hhas'
  have hseen : t.seenAt port (.stepRunner port pick') = some (.stepRunner port n) := by
    simp [seenAt, hclosing', hholder']
  rw [close_of_step_runner hlane htask hb hsever hid hstep]
  obtain ⟨effects', hstep'⟩ : ∃ effects', t.stepRunner port pick' =
      some (t.withLane port lane' (t.backends.set i (b'.closed id' (b'.severs.set k'
        (.closing (ids'.eraseIdx pick'))))), effects') :=
    (step_runner_at hlane' htask' hb').mpr (.inr ⟨_, Backend.step_sever_iff.mpr
      (.inr (.inr ⟨ids', id', hsever', hid', rfl⟩)), rfl⟩)
  refine h.matches_with_lane (.stepRunner port pick') rfl hstep' hseen ?_
  have hothers : ∀ m d, (s.clientsOf port)[m]? = some d → m ≠ n → d.backend = i →
      ∀ e, b.calls[d.call]? = some e → e.hasBridge id = false :=
    fun m d hd hm hdi e he => h.calm.bridge_ne hclient hd hm hi hdi hb hcall he hhas
  have hothers' : ∀ m d, (t.clientsOf port)[m]? = some d → m ≠ n → d.backend = i →
      ∀ e, b'.calls[d.call]? = some e → e.hasBridge id' = false :=
    fun m d hd hm hdi e he => h.calm'.bridge_ne hclient' hd hm hi' hdi hb' hcall' he hhas'
  have hunnumbered : lane'.runner.unnumbered = lane.runner.unnumbered := by
    simp [hrunner, Runner.unnumbered, htask]
  rw [sight_with_lane, sight_with_lane,
    sight_of_closed ⟨change, htask'⟩ hb' hsever' (h.calm'.placed port)
      ((h.calm'.quiet.tidy hb').nodup hsever') hid' hclient' hi' hcall' hhas' hothers',
    sight_of_closed ⟨change, htask⟩ hb hsever (h.calm.placed port)
      ((h.calm.quiet.tidy hb).nodup hsever) hid hclient hi hcall hhas hothers,
    hguests, hsame, h.logger, hmonitor, hunnumbered]

/-- The runner of the port goes on and closes no bridge. -/
theorem step_runner_matches (h : Mirrors c port s t) {pick : Nat}
    {effects : List (Component × Effect)} (hstep : s.stepRunner port pick = some (s', effects))
    (hclosing : s.closing? port pick = none) :
    t.Matches port now time (.stepRunner port 0) s' := by
  obtain ⟨lane, runner, backends, shown, hlane, hchange, -⟩ := step_runner_iff.mp ⟨effects, hstep⟩
  obtain ⟨i, k, change, b, htask, hb, hcases⟩ := Runner.step_change_cases hchange
  have hnone : ∀ ids id, b.severs[k]? = some (.closing ids) → ids[pick]? ≠ some id := by
    intro ids id hsever hid
    have hsome := closing_iff.mpr ⟨lane, k, b, ids, hlane, ⟨change, htask⟩, hb, hsever, hid⟩
    cases hclosing.symm.trans hsome
  rcases hcases with ⟨hreturned, -, -⟩ | ⟨next, effects', hnext, -, -⟩
  · exact h.step_sever_matches hlane htask hb hreturned rfl hstep
  · rcases Backend.step_sever_iff.mp ⟨effects', hnext⟩ with
      ⟨hraised, -⟩ | ⟨hnil, -⟩ | ⟨ids, id, hids, hid, -⟩
    · exact h.step_sever_matches hlane htask hb hraised rfl hstep
    · exact h.step_sever_matches hlane htask hb hnil rfl hstep
    · exact absurd hid (hnone ids id hids)

end Mirrors

end GaleraProxy.Service
