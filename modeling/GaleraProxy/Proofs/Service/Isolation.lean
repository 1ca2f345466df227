import GaleraProxy.Proofs.Service.Alone
import GaleraProxy.Proofs.Service.Endings
import GaleraProxy.Proofs.Service.Routing

/-!
# What one port does to the other

The two ports share the backends and nothing else, and what passes from the one to the other is the
sever of a backend: it closes the sessions of both. `isolated_but_for_severs` says that this is all,
and `session_ends_with_other_election` is a run in which it happens.
-/

namespace GaleraProxy.Service

open Deployment (twoNodes healthyAt)

variable {c : Config} {s t last : Service} {port : ProxyPort} {steps seen : List TimedAction}

/-- Whatever quiet steps a service takes, another one that looks the same to a port can take those
that the port sees, as long as the port is spared by the runner of the other one. -/
theorem Mirrors.run_alone (h : Mirrors c port s t)
    (hquiet : ∀ step ∈ steps, step.2.2.isQuiet = true)
    (hspares : ∀ n u more, runSteps (observe port) s (steps.take n) = some (u, more) →
      u.Spares port)
    (hrun : runSteps (observe port) s steps = some (last, seen)) :
    ∃ t', t.RunsAlone port seen t' ∧ Mirrors c port last t' ∧
      t'.lane? port.other = t.lane? port.other := by
  -- after every step the two services look the same again
  induction steps generalizing s t seen with
  | nil =>
      obtain ⟨rfl, rfl⟩ := Prod.mk.inj (Option.some.inj hrun)
      exact ⟨t, .done t, h, rfl⟩
  | cons step rest ih =>
      obtain ⟨now, time, action⟩ := step
      obtain ⟨hown, hothers⟩ := List.forall_mem_cons.mp hquiet
      obtain ⟨next, shown, others, hnext, hmore, rfl⟩ := run_steps_cons.mp hrun
      obtain ⟨effects, hstep, rfl⟩ := observe_cases hnext
      have hcalm := h.calm.step hown hstep
      have hafter : ∀ n u more, runSteps (observe port) next (rest.take n) = some (u, more) →
          u.Spares port := by
        intro n u more hu
        exact hspares (n + 1) u _ (run_steps_cons.mpr ⟨next, _, more, hnext, hu, rfl⟩)
      cases hseen : s.seenAt port action with
      | none =>
          -- the port sees nothing, and the other service waits
          have hsight := sight_of_unseen h.calm hown (hspares 0 s [] rfl) (hafter 0 next [] rfl)
            hstep hseen
          obtain ⟨t', halone, hmirrors, hother⟩ :=
            ih ⟨hcalm, h.calm', h.same.trans hsight.symm, h.all⟩ hothers hafter hmore
          exact ⟨t', halone, hmirrors, hother⟩
      | some label =>
          -- the other service takes a step that looks the same, maybe with other numbers
          obtain ⟨own, t₁, effects', hown', hstep', hseen', hsame, hother₁, hall⟩ :=
            h.matches_of_seen hown hstep hseen
          obtain ⟨t', halone, hmirrors, hother⟩ :=
            ih ⟨hcalm, h.calm'.step hown' hstep', hsame, hall⟩ hothers hafter hmore
          exact ⟨t', .go hstep' hseen' halone, hmirrors, hother.trans hother₁⟩

/-- A run of quiet steps keeps a calm service calm, and all that a port sees of it is quiet. -/
theorem Calm.run (hcalm : s.Calm c) (hquiet : ∀ step ∈ steps, step.2.2.isQuiet = true)
    (hrun : runSteps (observe port) s steps = some (last, seen)) :
    last.Calm c ∧ ∀ step ∈ seen, step.2.2.isQuiet = true := by
  induction steps generalizing s seen with
  | nil =>
      obtain ⟨rfl, rfl⟩ := Prod.mk.inj (Option.some.inj hrun)
      exact ⟨hcalm, fun _ hmem => absurd hmem List.not_mem_nil⟩
  | cons step rest ih =>
      obtain ⟨hown, hothers⟩ := List.forall_mem_cons.mp hquiet
      obtain ⟨next, shown, others, hnext, hmore, rfl⟩ := run_steps_cons.mp hrun
      obtain ⟨effects, hstep, rfl⟩ := observe_cases hnext
      obtain ⟨hlast, hlater⟩ := ih (hcalm.step hown hstep) hothers hmore
      refine ⟨hlast, fun entry hentry => ?_⟩
      rcases List.mem_append.mp hentry with hfirst | hmem
      · obtain ⟨label, hlabel, rfl⟩ := Option.map_eq_some_iff.mp (Option.mem_toList.mp hfirst)
        exact (quiet_of_seen hlabel).trans hown
      · exact hlater entry hmem

/-- For every configuration and every run in which nobody toggles the traffic switch or requests
shutdown: whatever happens next, a session of a port ends only because one of its sides has hung up,
or because the runner of one of the two ports severs its backend, in whose place that port has
elected another one or none. And as long as the runner of the other port severs no backend at which
a client of the port has a call that is not over, nothing that happens at the other port matters:
what the port has seen can also happen in a run in which nothing else does, and whenever it does,
the clients of the port come to the same there. -/
theorem isolated_but_for_severs (c : Config) (now : Moment) (port : ProxyPort)
    (steps : List TimedAction) (s : Service) (seen : List TimedAction)
    (hquiet : ∀ step ∈ steps, step.2.2.isQuiet = true)
    (hrun : runSteps (observe port) (create c now) steps = some (s, seen)) :
    (∀ (next : TimedAction) (s' : Service) (effects : List (Component × Effect)),
      next.2.2.isQuiet = true → s.step next.1 next.2.1 next.2.2 = some (s', effects) →
      ∀ client ∈ s.sessions port, client ∉ s'.sessions port →
        (∃ n, next.2.2 = .stepCall n ∧ s.clients[n]? = some client ∧ s.isHungUp client = true) ∨
          ∃ q pick, next.2.2 = .stepRunner q pick ∧ s.Replaces q client.backend) ∧
    ((∀ n u more, runSteps (observe port) (create c now) (steps.take n) = some (u, more) →
        u.Spares port) →
      (∃ t, (create c now).RunsAlone port seen t) ∧
      ∀ t, (create c now).RunsAlone port seen t →
        t.lane? port.other = (create c now).lane? port.other ∧
        (∀ client ∈ t.clients, client.port = port) ∧ t.standing port = s.standing port) := by
  have hcalm := create_calm c now
  obtain ⟨hlast, hseen⟩ := hcalm.run hquiet hrun
  refine ⟨fun next s' effects hnext hstep client hbefore hafter =>
    hlast.session_ends hnext hstep hbefore hafter, fun hspares => ?_⟩
  have hall : ∀ client ∈ (create c now).clients, client.port = port := by
    rw [(create_shared c now).1]
    exact fun _ hmem => absurd hmem List.not_mem_nil
  obtain ⟨t, halone, hmirrors, hother⟩ :=
    (Mirrors.mk hcalm hcalm rfl hall).run_alone hquiet hspares hrun
  refine ⟨⟨t, halone⟩, fun t' halone' => ?_⟩
  -- there is no other such run
  obtain rfl := halone'.unique halone hcalm hall hseen
  exact ⟨hother, hmirrors.all, standing_of_sight hmirrors.same⟩

/-- The monitor of a port completes a cycle with the replies of the agents of two nodes. -/
def cycle (port : ProxyPort) (first second : Except ProxyError AgentReply) : List Action :=
  [.beginCycle port, .answer port 0 first, .answer port 1 second, .finishCycle port]

/-- An election is taken by the runner of a port, and by all who follow that. -/
def electing : ProxyPort → List Action
  | .active =>
      [.publish .active, .takeElection .active, .publish .active, .trackElection, .publish .active,
       .followElection, .publish .active]
  | .inactive => [.publish .inactive, .takeElection .inactive, .publish .inactive]

/-- A client comes at a port, and is connected. -/
def coming (n : Nat) (port : ProxyPort) : List Action :=
  [.connect port (.empty 8), .endDial n (.ok (.empty 8)), .stepCall n, .stepCall n, .stepCall n]

/-- Actions that all happen at one moment. -/
def scheduled (now : Moment) (actions : List Action) : List TimedAction :=
  actions.map fun action => (now, ⟨0, 0⟩, action)

/-- An agent does not answer. -/
def noAnswer : Except ProxyError AgentReply := .error (.httpTimeout "http://10.0.0.1/status" 5000)

/-- Each port has a client at a node of its own. -/
def apart : List TimedAction :=
  scheduled 1000000000
    (cycle .active (.ok (healthyAt "0")) (.ok (healthyAt "1")) ++ electing .active ++
      cycle .inactive (.ok (healthyAt "0")) (.ok (healthyAt "1")) ++ electing .inactive ++
      coming 0 .active ++ coming 1 .inactive)

/-- The active port fails over to the node of the inactive port. -/
def failingOver : List TimedAction :=
  scheduled 3000000000
    (cycle .active noAnswer (.ok (healthyAt "1")) ++ [.publish .active, .takeElection .active] ++
      List.replicate 4 (.stepRunner .active 0) ++ List.replicate 3 (.stepCall 0))

/-- The session of the inactive port outlives that of the active one, as it would alone. -/
theorem isolated_but_for_severs_of_fail_over :
    ∃ s seen, runSteps (observe .inactive) (create twoNodes 0) (apart ++ failingOver) =
        some (s, seen) ∧ s.standing .active = [(0, false)] ∧
      (∃ t, (create twoNodes 0).RunsAlone .inactive seen t) ∧
      ∀ t, (create twoNodes 0).RunsAlone .inactive seen t → t.standing .inactive = [(1, true)] := by
  have hend : (runSteps (observe .inactive) (create twoNodes 0) (apart ++ failingOver)).any
      (fun r => r.1.standing .active = [(0, false)] ∧ r.1.standing .inactive = [(1, true)]) =
      true := by
    decide +kernel
  have hspares : ∀ n < 46, ∀ r ∈ runSteps (observe .inactive) (create twoNodes 0)
      ((apart ++ failingOver).take n), r.1.Spares .inactive := by
    decide +kernel
  obtain ⟨⟨s, seen⟩, hrun, hlast⟩ := (Option.any_eq_true _ _).mp hend
  obtain ⟨hactive, hinactive⟩ := of_decide_eq_true hlast
  obtain ⟨-, hisolated⟩ :=
    isolated_but_for_severs twoNodes 0 .inactive (apart ++ failingOver) s seen (by decide) hrun
  obtain ⟨hexists, hsame⟩ := hisolated fun n u more hu => by
    by_cases hn : n < 46
    · exact hspares n hn (u, more) hu
    · -- the run is over before
      have hlength : (apart ++ failingOver).length ≤ 45 := by decide
      rw [List.take_of_length_le (by omega)] at hu
      exact hspares 45 (by decide) (u, more) hu
  exact ⟨s, seen, hrun, hactive, hexists, fun t ht => (hsame t ht).2.2.trans hinactive⟩

/-- Each port has a client at the first node, as the second one does not answer. -/
def sharing : List TimedAction :=
  scheduled 1000000000
    (cycle .active (.ok (healthyAt "0")) noAnswer ++ electing .active ++
      cycle .inactive (.ok (healthyAt "0")) noAnswer ++ electing .inactive ++
      coming 0 .active ++ coming 1 .inactive)

/-- The inactive port turns to the second node once that is healthy. -/
def parting : List TimedAction :=
  scheduled 3000000000
    (cycle .inactive (.ok (healthyAt "0")) (.ok (healthyAt "1")) ++
      [.publish .inactive, .takeElection .inactive] ++ List.replicate 5 (.stepRunner .inactive 0) ++
      [.publish .inactive] ++ List.replicate 3 (.stepCall 0) ++ List.replicate 3 (.stepCall 1))

/-- What happens at the active port meanwhile. -/
def staying : List TimedAction :=
  scheduled 1000000000
    (cycle .active (.ok (healthyAt "0")) noAnswer ++ electing .active ++ coming 0 .active)

/-- The session of the active port ends because the other port has elected another backend, although
its own election stays and nobody hangs up. It goes on in the run in which nothing happens at the
other port. -/
theorem session_ends_with_other_election :
    ∃ s u t seen, (∀ step ∈ sharing ++ parting, step.2.2.isQuiet = true) ∧
      runSteps (observe .active) (create twoNodes 0) sharing = some (s, seen) ∧
      runSteps (observe .active) s parting =
        some (u, scheduled 3000000000 (List.replicate 3 (.stepCall 0))) ∧
      (create twoNodes 0).RunsAlone .active seen t ∧ (s.Settled ∧ u.Settled ∧ t.Settled) ∧
      (s.active.monitor.active = some 0 ∧ u.active.monitor.active = some 0) ∧
      s.sessions .active = [⟨.active, 0, 0⟩] ∧ u.sessions .active = [] ∧
      t.sessions .active = [⟨.active, 0, 0⟩] := by
  have hshared : (runSteps (observe .active) (create twoNodes 0) sharing).any (fun r =>
      r.2 = staying ∧ r.1.Settled ∧ r.1.active.monitor.active = some 0 ∧
      r.1.sessions .active = [⟨.active, 0, 0⟩] ∧
      (runSteps (observe .active) r.1 parting).any (fun q =>
        q.2 = scheduled 3000000000 (List.replicate 3 (.stepCall 0)) ∧ q.1.Settled ∧
        q.1.active.monitor.active = some 0 ∧ q.1.sessions .active = [])) = true := by
    decide +kernel
  have halone : (runSteps (observe .active) (create twoNodes 0) staying).any (fun r =>
      r.2 = staying ∧ r.1.Settled ∧ r.1.sessions .active = [⟨.active, 0, 0⟩]) = true := by
    decide +kernel
  obtain ⟨⟨s, seen⟩, hfirst, hs⟩ := (Option.any_eq_true _ _).mp hshared
  obtain ⟨rfl, hsettled, helected, hopen, hrest⟩ := of_decide_eq_true hs
  obtain ⟨⟨u, more⟩, hsecond, hu⟩ := (Option.any_eq_true _ _).mp hrest
  obtain ⟨rfl, hsettled', helected', hended⟩ := of_decide_eq_true hu
  obtain ⟨⟨t, own⟩, hown, ht⟩ := (Option.any_eq_true _ _).mp halone
  obtain ⟨rfl, hsettled'', hopen'⟩ := of_decide_eq_true ht
  exact ⟨s, u, t, staying, by decide, hfirst, hsecond, .of_run hown rfl,
    ⟨hsettled, hsettled', hsettled''⟩, ⟨helected, helected'⟩, hopen, hended, hopen'⟩

end GaleraProxy.Service
