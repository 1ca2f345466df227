import GaleraProxy.Proofs.Service.Mirroring.Clients
import GaleraProxy.Proofs.Service.Mirroring.Lanes
import GaleraProxy.Proofs.Service.Mirroring.Severs

/-!
# Steps that look the same

Whatever a port sees of a step of one service, another one that looks the same can do as well:
`Mirrors.matches_of_seen`.
-/

namespace GaleraProxy.Service

variable {c : Config} {s s' t : Service} {port : ProxyPort} {now : Moment} {time : Timestamp}

namespace Mirrors

/-- Whatever a port sees of a step of one service, the other one can do as well. -/
theorem matches_of_seen (h : Mirrors c port s t) {action label : Action}
    {effects : List (Component × Effect)} (hquiet : action.isQuiet = true)
    (hstep : s.step now time action = some (s', effects))
    (hseen : s.seenAt port action = some label) : t.Matches port now time label s' := by
  -- no part stops before shutdown is requested
  have hstopped := h.calm.sound.is_running.when_stopping
  cases action with
  | beginCycle q =>
      obtain ⟨rfl, rfl⟩ := seen_if hseen
      simp only [step] at hstep
      have hbegin : t.step now time (.beginCycle q) = t.stepMonitor q fun m =>
          (m.beginCycle t.backends now).map fun m => (m, []) := rfl
      exact h.monitor_matches rfl (if_pos rfl) hbegin
        (fun m => by rw [Monitor.begin_cycle_congr h.configured]) hstep
  | answer q i result =>
      obtain ⟨rfl, rfl⟩ := seen_if hseen
      simp only [step] at hstep
      exact h.monitor_matches rfl (if_pos rfl) rfl (fun _ => rfl) hstep
  | crash q i error =>
      obtain ⟨rfl, rfl⟩ := seen_if hseen
      simp only [step] at hstep
      exact h.monitor_matches rfl (if_pos rfl) rfl (fun _ => rfl) hstep
  | publish q =>
      obtain ⟨rfl, rfl⟩ := seen_if hseen
      simp only [step] at hstep
      exact h.monitor_matches rfl (if_pos rfl) rfl (fun _ => rfl) hstep
  | finishCycle q =>
      obtain ⟨rfl, rfl⟩ := seen_if hseen
      exact h.finish_cycle_matches hstep
  | takeElection q =>
      obtain ⟨rfl, rfl⟩ := seen_if hseen
      exact h.take_election_matches hstep
  | takeTraffic q => cases (h.calm.take_traffic q).symm.trans hstep
  | stepRunner q pick =>
      simp only [seenAt] at hseen
      split at hseen
      · rename_i heq
        subst q
        split at hseen
        · obtain ⟨n, hholder, rfl⟩ := Option.map_eq_some_iff.mp hseen
          exact h.close_bridge_matches hstep ‹_› hholder
        · obtain rfl := Option.some.inj hseen
          exact h.step_runner_matches hstep ‹_›
      · cases hseen
  | trackElection =>
      obtain ⟨rfl, rfl⟩ := seen_if hseen
      exact h.track_election_matches hstep
  | followElection =>
      obtain ⟨rfl, rfl⟩ := seen_if hseen
      exact h.follow_election_matches hstep
  | report =>
      obtain ⟨rfl, rfl⟩ := seen_if hseen
      exact h.report_matches hstep
  | toggle enabled note => cases hquiet
  | stepToggle =>
      simp only [step, h.calm.step_cluster, Option.map_none] at hstep
      cases hstep
  | connect q client =>
      obtain ⟨rfl, rfl⟩ := seen_if hseen
      exact h.connect_matches hstep
  | endDial g result =>
      obtain ⟨n, hplace, rfl⟩ := Option.map_eq_some_iff.mp hseen
      exact h.end_dial_matches hplace hstep
  | stepCall g =>
      obtain ⟨n, hplace, rfl⟩ := Option.map_eq_some_iff.mp hseen
      exact h.step_call_matches hplace hstep
  | clientEvent g event =>
      obtain ⟨n, hplace, rfl⟩ := Option.map_eq_some_iff.mp hseen
      exact h.far_event_matches hplace .client event hstep
  | serverEvent g event =>
      obtain ⟨n, hplace, rfl⟩ := Option.map_eq_some_iff.mp hseen
      exact h.far_event_matches hplace .server event hstep
  | requestShutdown => cases hquiet
  | stopMonitor q => cases (hstopped _).symm.trans hstep
  | stopLogger => cases (hstopped _).symm.trans hstep
  | stopFollowing => cases (hstopped _).symm.trans hstep
  | drain q => cases (hstopped _).symm.trans hstep
  | stopRunner q => cases (h.calm.sound.is_running.stop_runner q now).symm.trans hstep

end Mirrors

end GaleraProxy.Service
