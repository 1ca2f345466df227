import GaleraProxy.Proofs.Backend.HangingUp
import GaleraProxy.Proofs.Backend.Sweeps
import GaleraProxy.Proofs.Service.Soundness
import GaleraProxy.Service.Standing

/-!
# A service that nobody disturbs

As long as nobody toggles the traffic switch, no decision waits for a runner. `Service.Quiet` adds
what else holds in such a run and is not told by `Service.Sound`: clients have calls of their own
and calls belong to clients, and no two runners are at the same sever. The main results are
`create_calm` and `Calm.step`.
-/

namespace GaleraProxy

/-- Nobody has called the switch. -/
structure Cluster.Untouched (c : Cluster) : Prop where
  pending : c.pending = []
  waiting : ∀ {place : Nat} {channel : Channel Bool}, c.subscribers[place]? = some channel →
    channel.waiting = none

theorem Cluster.start_untouched (subscribers : Nat) : (Cluster.start subscribers).Untouched where
  pending := rfl
  waiting h := by
    obtain ⟨-, rfl⟩ := List.mem_replicate.mp (List.mem_of_getElem? h)
    rfl

/-- No call has begun at any backend of a list. -/
def KeepsCalls (backends backends' : List Backend) : Prop :=
  ∀ ⦃j : Nat⦄ ⦃b' : Backend⦄, backends'[j]? = some b' →
    ∃ b, backends[j]? = some b ∧ b'.calls.length = b.calls.length

namespace Backend

variable {b : Backend} {backends : List Backend}

theorem SeverAdvance.calls_length {k : Nat} {next : Backend} (h : SeverAdvance b k next) :
    next.calls.length = b.calls.length := by
  cases h <;> simp

theorem Moves.severs_length_le {b' : Backend} (h : b.Moves b') :
    b.severs.length ≤ b'.severs.length := by
  rcases h with rfl | ⟨action, effects, hstep⟩
  · exact Nat.le_refl _
  · exact step_severs_length_le hstep

theorem keeps_calls_set {i : Nat} {b' : Backend} (hb : backends[i]? = some b)
    (hlength : b'.calls.length = b.calls.length) : KeepsCalls backends (backends.set i b') := by
  intro j d hd
  rw [getElem?_set_of_getElem? hb] at hd
  split at hd
  · subst j
    obtain rfl := Option.some.inj hd
    exact ⟨b, hb, hlength⟩
  · exact ⟨d, hd, rfl⟩

/-- No backend begins a call by itself. -/
theorem Aside.keeps_calls {backends' : List Backend} (h : Aside backends backends') :
    KeepsCalls backends backends' := by
  intro j b' hb'
  obtain ⟨b, hb, -⟩ := h.onward.before hb'
  refine ⟨b, hb, ?_⟩
  rcases h.moves hb hb' with rfl | ⟨action, effects, hown, hstep⟩
  · rfl
  · cases step_transition hstep with
    | touch => simp [withCall]
    | setHealthy => rfl
    | advanceSever hother => cases hown.symm.trans hother
    | beginSever hother => cases hown.symm.trans hother
    | beginCall client generation hother => cases hown.symm.trans hother

end Backend

namespace Runner

variable {r r' : Runner} {backends backends' : List Backend}

theorem begin_change_keeps_calls (r : Runner) (backends : List Backend) (change : Change) :
    KeepsCalls backends (r.beginChange backends change).2.1 := by
  rcases r.begin_change_cases backends change with ⟨-, heq, -⟩ | ⟨i, b, -, hb, -, heq⟩
  · rw [heq]
    exact fun j b hb => ⟨b, hb, rfl⟩
  · rw [heq]
    exact Backend.keeps_calls_set hb rfl

theorem step_change_keeps_calls {pick : Nat} {effects : List Effect}
    (h : r.stepChange backends pick = some (r', backends', effects)) :
    KeepsCalls backends backends' := by
  obtain ⟨i, k, change, b, -, hb, ⟨-, -, rfl⟩ | ⟨next, shown, hnext, -, rfl⟩⟩ := step_change_cases h
  · exact fun j b hb => ⟨b, hb, rfl⟩
  · exact Backend.keeps_calls_set hb (Backend.step_sever_cases hnext).calls_length

/-- A runner that is at a sever was at it before, or has begun it as the latest of its backend. -/
theorem Move.attends (h : r.Move backends r' backends') {j k : Nat} (hattends : r'.Attends j k) :
    r.Attends j k ∨ ∃ b, backends[j]? = some b ∧ k = b.severs.length ∧
      backends' = backends.set j b.beginSever.1 := by
  cases h with
  | stay _ hagrees =>
      obtain ⟨change, htask⟩ := hattends
      exact .inl ⟨change, hagrees.task.symm.trans htask⟩
  | begin change hready =>
      rcases r.begin_change_cases backends change with ⟨heq, -, -⟩ | ⟨i, b, -, hb, heq, hbackends⟩
      · rw [heq] at hattends
        exact absurd hattends (not_attends_of_idle (by cases change <;> rfl))
      · rw [heq] at hattends
        obtain ⟨own, htask⟩ := hattends
        obtain ⟨rfl, rfl, -⟩ := Task.severing.inj htask
        exact .inr ⟨b, hb, rfl, hbackends⟩
  | go hstep =>
      obtain ⟨i, m, change, b, -, -, ⟨-, rfl, -⟩ | ⟨next, shown, -, rfl, -⟩⟩ :=
        step_change_cases hstep
      · exact absurd hattends (not_attends_of_idle (by cases change <;> rfl))
      · exact .inl hattends
  | accept => exact .inl hattends
  | aside => exact .inl hattends

/-- The runner lets traffic through, and it severs a backend only because another one or none has
been elected in its place. -/
structure Electing (r : Runner) : Prop where
  traffic : r.trafficEnabled = true
  severing : ∀ {i k : Nat} {change : Change}, r.task = .severing i k change →
    r.active = some i ∧ ∃ e, change = .election e ∧ e ≠ some i

theorem start_electing (delay : Duration) : (start delay).Electing :=
  ⟨rfl, fun htask => nomatch htask⟩

/-- A runner that takes in an election severs the backend that is replaced. -/
theorem Electing.begin_election (h : r.Electing) (backends : List Backend) (e : Option Nat) :
    (r.beginChange backends (.election e)).1.Electing := by
  rcases r.begin_change_cases backends (.election e) with ⟨heq, -, -⟩ | ⟨i, b, hsevered, -, heq, -⟩
  · rw [heq]
    exact ⟨h.traffic, fun htask => nomatch htask⟩
  · rw [heq]
    refine ⟨h.traffic, fun htask => ?_⟩
    obtain ⟨rfl, -, rfl⟩ := Task.severing.inj htask
    have hactive := active_of_severed hsevered
    refine ⟨hactive, e, rfl, ?_⟩
    rintro rfl
    simp [severed?, hactive] at hsevered

/-- A runner that goes on takes in an election. -/
theorem Electing.step_change (h : r.Electing) {pick : Nat} {effects : List Effect}
    (hstep : r.stepChange backends pick = some (r', backends', effects)) : r'.Electing := by
  obtain ⟨i, k, change, b, htask, -, ⟨-, rfl, -⟩ | ⟨next, shown, -, rfl, -⟩⟩ :=
    step_change_cases hstep
  · obtain ⟨-, e, rfl, -⟩ := h.severing htask
    exact ⟨h.traffic, fun htask' => nomatch htask'⟩
  · exact h

end Runner

namespace Service

/-- Two clients that were sent to the same backend have different calls there. -/
def Apart (backends : Nat) (d e : Client) : Prop :=
  d.backend = e.backend → d.backend < backends → d.call ≠ e.call

/-- Every call of a backend is that of a client. -/
def Covered (backends : List Backend) (clients : List Client) : Prop :=
  ∀ ⦃j i : Nat⦄ ⦃b : Backend⦄, backends[j]? = some b → i < b.calls.length →
    ∃ client ∈ clients, client.backend = j ∧ client.call = i

/-- What holds in every state as long as nobody toggles the traffic switch or requests shutdown. -/
structure Quiet (s : Service) : Prop where
  tidy : Backend.AllTidy s.backends
  truthful : Backend.AllTruthful s.backends
  apart : s.clients.Pairwise (Apart s.backends.length)
  covered : Covered s.backends s.clients
  untouched : s.cluster.Untouched
  begun : ∀ {port : ProxyPort} {lane : Lane} {j k : Nat}, s.lane? port = some lane →
    lane.runner.Attends j k → ∃ b, s.backends[j]? = some b ∧ k < b.severs.length
  electing : ∀ {port : ProxyPort} {lane : Lane}, s.lane? port = some lane → lane.runner.Electing
  alone : ∀ {port q : ProxyPort} {lane other : Lane} {j k : Nat}, port ≠ q →
    s.lane? port = some lane → s.lane? q = some other → lane.runner.Attends j k →
    ¬ other.runner.Attends j k

variable {c : Config} {s s' : Service} {port : ProxyPort} {p p' : Scope} {action : Action}

theorem Scope.Step.untouched (h : p.Step port action p') (hquiet : action.isQuiet = true)
    (huntouched : p.cluster.Untouched) : p'.cluster.Untouched := by
  cases h with
  | takeTraffic hready hc hwaiting => cases (huntouched.waiting hc).symm.trans hwaiting
  | toggle => cases hquiet
  | stepToggle hstep =>
      rw [Cluster.step, huntouched.pending] at hstep
      cases hstep
  | followElection => exact ⟨huntouched.pending, huntouched.waiting⟩
  | _ => exact huntouched

/-- The call of a new client is a new one. -/
theorem Scope.Step.apart (h : p.Step port action p') (hplaced : Placed p.backends p.clients)
    (hapart : p.clients.Pairwise (Apart p.backends.length)) :
    p'.clients.Pairwise (Apart p'.backends.length) := by
  rw [h.move.onward.length_eq]
  rcases h.clients_cases with heq | ⟨i, client, -, -, heq⟩
  · rwa [heq]
  · rw [heq]
    refine List.pairwise_append.mpr ⟨hapart, List.pairwise_singleton _ _, fun d hd e he => ?_⟩
    obtain rfl := List.mem_singleton.mp he
    intro hbackend hlt
    have hb := List.getElem?_eq_getElem hlt
    have hcall := hplaced hd hb
    rw [← show d.backend = i from hbackend, hb, Option.map_some, Option.getD_some]
    exact Nat.ne_of_lt hcall

/-- As long as no call begins, every call belongs to a client. -/
theorem Covered.keep {backends backends' : List Backend} {clients : List Client}
    (h : Covered backends clients) (hkeeps : KeepsCalls backends backends') :
    Covered backends' clients := by
  intro j i b' hb' hi
  obtain ⟨b, hb, hlength⟩ := hkeeps hb'
  exact h hb (hlength ▸ hi)

/-- A call begins for a client only. -/
theorem Scope.Step.covered (h : p.Step port action p') (hcovered : Covered p.backends p.clients) :
    Covered p'.backends p'.clients := by
  cases h with
  | finishCycle hstep =>
      obtain ⟨polls, outcomes, statuses, shown, chosen, -, -, happly, -, -⟩ :=
        Monitor.finish_cycle_cases hstep
      have haside := Monitor.apply_outcomes_aside p.backends p.lane.monitor.statuses outcomes
      rw [happly] at haside
      exact hcovered.keep haside.keeps_calls
  | takeElection => exact hcovered.keep (Runner.begin_change_keeps_calls ..)
  | takeTraffic => exact hcovered.keep (Runner.begin_change_keeps_calls ..)
  | stepRunner pick hstep => exact hcovered.keep (Runner.step_change_keeps_calls hstep)
  | ofCall hcall haside => exact hcovered.keep haside.keeps_calls
  | @connect client n hready hroute =>
      intro j i b' hb' hi
      simp only [Runner.accept, hroute] at hb'
      rw [List.getElem?_modify] at hb'
      obtain ⟨b, hb, rfl⟩ := Option.map_eq_some_iff.mp hb'
      split at hi
      · subst j
        rw [Backend.beginCall, List.length_append, List.length_singleton] at hi
        by_cases hlt : i < b.calls.length
        · obtain ⟨old, hold, hplace⟩ := hcovered hb hlt
          exact ⟨old, List.mem_append_left _ hold, hplace⟩
        · -- the latest call is that of the new client
          refine ⟨_, List.mem_append_right _ (List.mem_singleton.mpr rfl), rfl, ?_⟩
          rw [hb, Option.map_some, Option.getD_some]
          show b.calls.length = i
          omega
      · obtain ⟨old, hold, hplace⟩ := hcovered hb hi
        exact ⟨old, List.mem_append_left _ hold, hplace⟩
  | _ => exact hcovered

/-- The lane of a step is at severs that have begun. -/
theorem Scope.Step.begun (h : p.Step port action p')
    (hbegun : ∀ {j k : Nat}, p.lane.runner.Attends j k →
      ∃ b, p.backends[j]? = some b ∧ k < b.severs.length) {j k : Nat}
    (hattends : p'.lane.runner.Attends j k) :
    ∃ b, p'.backends[j]? = some b ∧ k < b.severs.length := by
  rcases h.move.attends hattends with hbefore | ⟨b, hb, rfl, heq⟩
  · obtain ⟨b, hb, hlt⟩ := hbegun hbefore
    obtain ⟨b', hb', hmoves⟩ := h.move.onward.after hb
    exact ⟨b', hb', Nat.lt_of_lt_of_le hlt hmoves.severs_length_le⟩
  · refine ⟨b.beginSever.1, ?_, ?_⟩
    · rw [heq]
      exact getElem?_set_self_of_getElem? hb _
    · simp [Backend.beginSever]

/-- The runner of the lane of a step severs what is replaced by an election. -/
theorem Scope.Step.electing (h : p.Step port action p') (huntouched : p.cluster.Untouched)
    (helecting : p.lane.runner.Electing) : p'.lane.runner.Electing := by
  cases h with
  | takeElection => exact helecting.begin_election ..
  | takeTraffic hready hc hwaiting => cases (huntouched.waiting hc).symm.trans hwaiting
  | stepRunner pick hstep => exact helecting.step_change hstep
  | _ => exact helecting

/-- Every quiet step of one lane keeps the whole service quiet. -/
theorem Quiet.progress (h : s.Quiet) (hsound : s.Sound c) (hquiet : action.isQuiet = true)
    (hprogress : Progress s action s') : s'.Quiet := by
  obtain ⟨port, lane, lane', hlane, hlanes, -, -, hstep⟩ := hprogress
  have hown : s'.lane? port = some lane' := by rw [hlanes, if_pos rfl]
  -- the sever of the lane of the step is none of another lane
  have hother : ∀ {q : ProxyPort} {other : Lane} {j k : Nat}, q ≠ port →
      s.lane? q = some other → lane'.runner.Attends j k → ¬ other.runner.Attends j k := by
    intro q other j k hq hlane' hattends hboth
    rcases hstep.move.attends hattends with hbefore | ⟨b, hb, rfl, -⟩
    · exact h.alone hq.symm hlane hlane' hbefore hboth
    · obtain ⟨b', hb', hlt⟩ := h.begun hlane' hboth
      obtain rfl := Option.some.inj (hb.symm.trans hb')
      exact Nat.lt_irrefl _ hlt
  constructor
  case tidy => exact h.tidy.onward hsound.consistent hstep.move.onward
  case truthful => exact h.truthful.onward hstep.move.onward
  case apart => exact hstep.apart hsound.placed h.apart
  case covered => exact hstep.covered h.covered
  case untouched => exact hstep.untouched hquiet h.untouched
  case begun =>
    intro q other j k hq hattends
    rw [hlanes] at hq
    split at hq
    · obtain rfl := Option.some.inj hq
      exact hstep.begun (fun hbefore => h.begun hlane hbefore) hattends
    · obtain ⟨b, hb, hlt⟩ := h.begun hq hattends
      obtain ⟨b', hb', hmoves⟩ := hstep.move.onward.after hb
      exact ⟨b', hb', Nat.lt_of_lt_of_le hlt hmoves.severs_length_le⟩
  case electing =>
    intro q other hq
    rw [hlanes] at hq
    split at hq
    · obtain rfl := Option.some.inj hq
      exact hstep.electing h.untouched (h.electing hlane)
    · exact h.electing hq
  case alone =>
    intro q₁ q₂ lane₁ lane₂ j k hne h₁ h₂ hattends hboth
    rw [hlanes] at h₁ h₂
    split at h₁ <;> split at h₂
    · exact hne (‹q₁ = port›.trans ‹q₂ = port›.symm)
    · obtain rfl := Option.some.inj h₁
      exact hother ‹_› h₂ hattends hboth
    · obtain rfl := Option.some.inj h₂
      exact hother ‹_› h₁ hboth hattends
    · exact h.alone hne h₁ h₂ hattends hboth

/-- The runners of a service that starts have done nothing yet. -/
theorem create_runner {now : Moment} {lane : Lane}
    (hlane : (create c now).lane? port = some lane) :
    ∃ delay, lane.runner = .start delay := by
  unfold create at hlane
  rcases leave_failed_logger_cases _ with heq | heq
  · rw [heq] at hlane
    cases port with
    | active =>
        obtain rfl := Option.some.inj hlane
        exact ⟨_, rfl⟩
    | inactive =>
        obtain ⟨own, -, rfl⟩ := Option.map_eq_some_iff.mp hlane
        exact ⟨_, rfl⟩
  · rw [heq] at hlane
    cases port with
    | active =>
        obtain rfl := Option.some.inj hlane
        exact ⟨_, rfl⟩
    | inactive =>
        obtain ⟨own, -, rfl⟩ := Option.map_eq_some_iff.mp hlane
        exact ⟨_, rfl⟩

/-- A service that starts has no clients yet, its backends are as they were configured, and nobody
has called its switch. -/
theorem create_shared (c : Config) (now : Moment) : (create c now).clients = [] ∧
    (create c now).backends = nodes c ∧ (create c now).cluster.Untouched := by
  unfold create
  rcases leave_failed_logger_cases _ with heq | heq
  · rw [heq]
    exact ⟨rfl, rfl, Cluster.start_untouched _⟩
  · rw [heq]
    exact ⟨rfl, rfl, Cluster.start_untouched _⟩

/-- A service starts quiet. -/
theorem create_quiet (c : Config) (now : Moment) : (create c now).Quiet := by
  obtain ⟨hclients, hbackends, huntouched⟩ := create_shared c now
  have hidle : ∀ {port : ProxyPort} {lane : Lane} {j k : Nat},
      (create c now).lane? port = some lane → ¬ lane.runner.Attends j k := by
    intro port lane j k hlane
    obtain ⟨delay, hrunner⟩ := create_runner hlane
    exact Runner.not_attends_of_idle (by rw [hrunner]; rfl)
  constructor
  case tidy =>
    rw [hbackends]
    exact Backend.all_tidy_of_config c.proxy.backends
  case truthful =>
    rw [hbackends]
    exact Backend.all_truthful_of_config c.proxy.backends
  case apart =>
    rw [hclients]
    exact List.Pairwise.nil
  case covered =>
    rw [hbackends]
    intro j i b hb hi
    obtain ⟨config, -, rfl⟩ := Option.map_eq_some_iff.mp ((List.getElem?_map ..).symm.trans hb)
    exact absurd hi (Nat.not_lt_zero i)
  case untouched => exact huntouched
  case begun => exact fun hlane hattends => absurd hattends (hidle hlane)
  case electing =>
    intro port lane hlane
    obtain ⟨delay, hrunner⟩ := create_runner hlane
    rw [hrunner]
    exact Runner.start_electing delay
  case alone => exact fun _ hlane _ hattends => absurd hattends (hidle hlane)

/-- What holds in every state of a run in which nobody toggles the traffic switch or requests
shutdown. -/
structure Calm (c : Config) (s : Service) : Prop where
  sound : s.Sound c
  quiet : s.Quiet

theorem create_calm (c : Config) (now : Moment) : (create c now).Calm c :=
  ⟨create_sound c now, create_quiet c now⟩

theorem ordinary_of_quiet (hquiet : action.isQuiet = true) : action ≠ .requestShutdown := by
  rintro rfl
  cases hquiet

/-- Every quiet step keeps a calm service calm. -/
theorem Calm.step (h : s.Calm c) {now : Moment} {time : Timestamp}
    {effects : List (Component × Effect)} (hquiet : action.isQuiet = true)
    (hstep : s.step now time action = some (s', effects)) : s'.Calm c :=
  ⟨h.sound.step (ordinary_of_quiet hquiet) hstep, h.quiet.progress h.sound hquiet
    (step_progress h.sound.is_running (ordinary_of_quiet hquiet) hstep)⟩

end Service

end GaleraProxy
