import GaleraProxy.Proofs.Service.Unseen

/-!
# Two services that look the same to a port

A port that sees the same of two services sees the same of what they do next. `Mirrors` relates the
two services, and `Matches` says that the one can take a step that looks like one of the other.
-/

namespace GaleraProxy

/-- A runner that is like another one is at the same change. -/
theorem Runner.task_of_unnumbered {r r' : Runner} (h : r'.unnumbered = r.unnumbered) {i k : Nat}
    {change : Change} (htask : r.task = .severing i k change) :
    ∃ k', r' = { r with task := .severing i k' change } := by
  cases htask' : r'.task with
  | idle =>
      rw [unnumbered_of_idle htask'] at h
      rw [h] at htask'
      simp [unnumbered, htask] at htask'
  | severing i' k' change' =>
      refine ⟨k', ?_⟩
      obtain ⟨active, traffic, delay, phase, task⟩ := r
      obtain ⟨active', traffic', delay', phase', task'⟩ := r'
      simp only at htask htask'
      subst htask htask'
      simp only [unnumbered, mk.injEq, Task.severing.injEq] at h ⊢
      simp [h]

/-- A runner that is like one that waits is the same. -/
theorem Runner.eq_of_unnumbered {r r' : Runner} (h : r'.unnumbered = r.unnumbered)
    (hidle : r.task = .idle) : r' = r := by
  cases htask' : r'.task with
  | idle => rwa [unnumbered_of_idle htask', unnumbered_of_idle hidle] at h
  | severing i' k' change' =>
      rw [unnumbered_of_idle hidle] at h
      rw [← h] at hidle
      simp [unnumbered, htask'] at hidle

theorem Sever.eq_of_unnumbered {sever sever' : Sever} (h : sever'.unnumbered = sever.unnumbered)
    (hleft : ∀ ids, sever ≠ .closing ids) : sever' = sever := by
  cases sever with
  | closing ids => exact absurd rfl (hleft ids)
  | raised => cases sever' <;> first | rfl | cases h
  | returned => cases sever' <;> first | rfl | cases h

theorem Sever.closing_of_unnumbered {sever' : Sever} {ids : List BridgeId}
    (h : sever'.unnumbered = (Sever.closing ids).unnumbered) : ∃ ids', sever' = .closing ids' := by
  cases sever' with
  | closing ids' => exact ⟨ids', rfl⟩
  | raised => cases h
  | returned => cases h

namespace Service

variable {c : Config} {s s' t : Service} {port : ProxyPort} {now : Moment} {time : Timestamp}

/-- What is seen on a condition. -/
theorem seen_if {p : Prop} [Decidable p] {seen label : Action}
    (h : (if p then some seen else none) = some label) : p ∧ seen = label := by
  obtain ⟨hp, heq⟩ := Option.ite_none_right_eq_some.mp h
  exact ⟨hp, Option.some.inj heq⟩

/-- The service can take a step of which the port sees what is given, and then sees what it sees of
another service. Nothing is done for the other port. -/
def Matches (t : Service) (port : ProxyPort) (now : Moment) (time : Timestamp) (label : Action)
    (s' : Service) : Prop :=
  ∃ own t' effects, own.isQuiet = true ∧ t.step now time own = some (t', effects) ∧
    t.seenAt port own = some label ∧ t'.sight port = s'.sight port ∧
    t'.lane? port.other = t.lane? port.other ∧ ∀ client ∈ t'.clients, client.port = port

/-- Two services that look the same to a port, one of which has no other clients. -/
structure Mirrors (c : Config) (port : ProxyPort) (s t : Service) : Prop where
  calm : s.Calm c
  calm' : t.Calm c
  same : t.sight port = s.sight port
  all : ∀ client ∈ t.clients, client.port = port

theorem other_ne (port : ProxyPort) : port.other ≠ port := by
  cases port <;> exact fun h => nomatch h

namespace Mirrors

/-- The lanes of the port look the same. -/
theorem lane (h : Mirrors c port s t) {lane : Lane} (hlane : s.lane? port = some lane) :
    ∃ lane', t.lane? port = some lane' ∧ lane'.monitor = lane.monitor ∧
      lane'.runner.unnumbered = lane.runner.unnumbered ∧
      (lane'.runner.sever? t.backends).map Sever.unnumbered =
        (lane.runner.sever? s.backends).map Sever.unnumbered := by
  have hsame := congrArg Sight.lane h.same
  simp only [sight, sightOf, hlane, Option.map_some] at hsame
  obtain ⟨lane', hlane', heq⟩ := Option.map_eq_some_iff.mp hsame
  obtain ⟨hmonitor, hrunner, hsever⟩ := LaneSight.mk.inj heq
  exact ⟨lane', hlane', hmonitor, hrunner, hsever⟩

theorem guests (h : Mirrors c port s t) :
    glances t.backends (heldBy (t.lane? port) t.backends) (t.clientsOf port) =
      glances s.backends (heldBy (s.lane? port) s.backends) (s.clientsOf port) :=
  congrArg Sight.guests h.same

theorem logger (h : Mirrors c port s t) : t.loggerFor port = s.loggerFor port :=
  congrArg Sight.logger h.same

/-- The backends are configured alike. -/
theorem configured (h : Mirrors c port s t) :
    t.backends.map Backend.asConfigured = s.backends.map Backend.asConfigured :=
  h.calm'.sound.shared.configured_eq.trans h.calm.sound.shared.configured_eq.symm

/-- Where one service has a backend, the other has one that is configured like it. -/
theorem backend (h : Mirrors c port s t) {j : Nat} {b : Backend} (hb : s.backends[j]? = some b) :
    ∃ b', t.backends[j]? = some b' ∧ b'.asConfigured = b.asConfigured := by
  have hsame := congrArg (fun l => l[j]?) h.configured
  simp only [List.getElem?_map, hb, Option.map_some] at hsame
  exact Option.map_eq_some_iff.mp hsame

theorem backend_none (h : Mirrors c port s t) {j : Nat} (hb : s.backends[j]? = none) :
    t.backends[j]? = none := by
  have hsame := congrArg (fun l => l[j]?) h.configured
  simpa only [List.getElem?_map, hb, Option.map_none, Option.map_eq_none_iff] using hsame

/-- Nothing changes but the lane of the port and backends. -/
theorem matches_with_lane (h : Mirrors c port s t) (own : Action) {label : Action}
    {lane lane' : Lane} {backends backends' : List Backend}
    {effects : List (Component × Effect)} (hquiet : own.isQuiet = true)
    (hstep : t.step now time own = some (t.withLane port lane' backends', effects))
    (hseen : t.seenAt port own = some label)
    (hsight : (t.withLane port lane' backends').sight port =
      (s.withLane port lane backends).sight port) :
    t.Matches port now time label (s.withLane port lane backends) := by
  refine ⟨own, _, effects, hquiet, hstep, hseen, hsight, ?_, ?_⟩
  · rw [lane?_with_lane, if_neg (other_ne port)]
  · rw [with_lane_clients]
    exact h.all

end Mirrors

end Service

end GaleraProxy
