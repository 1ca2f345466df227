import GaleraProxy.Monitor.Following
import GaleraProxy.Proofs.Cluster.Toggling
import GaleraProxy.Proofs.Monitor.Operations
import GaleraProxy.Proofs.Monitor.Polling
import GaleraProxy.Proofs.Monitor.Publication
import GaleraProxy.Proofs.Runner.Change

/-!
# The followers of a monitor agree

Each follower keeps a copy of its own, and elections wait for each of them in a channel of its own.
`followers_agree` says what the copies are once nothing waits, and that the failovers which the
status logger has counted are the backends that the monitor's cycles have replaced.
-/

namespace GaleraProxy

open Monitor (changes replaced replaced_concat replaced_changes)

/-! ## What a monitor's step leaves alone -/

namespace Monitoring

variable {s s' : Monitoring} {now : Moment} {action : Action} {more : List Signal} {place : Nat}

theorem sending_taken_by (m : Monitor) (place : Nat) : takenBy place (sending m) = [] := by
  unfold sending
  repeat' split
  all_goals rfl

/-- A subscriber stays informed of what the monitor does and other subscribers do. -/
theorem step_informs {seen : Elected → Prop} (h : s.monitor.Informs place seen)
    (hspares : action.spares place = true) (hstep : s.step now action = some (s', more)) :
    s'.monitor.Informs place seen := by
  cases step_moves hstep with
  | beginCycle hm => exact h.begin_cycle hm
  | answer i result => exact h.modify_poll i _
  | crash i error => exact h.modify_poll i _
  | finishCycle hm => exact h.finish_cycle hm
  | publish hm => exact h.publish hm
  | take other hm =>
      have hne : other ≠ place := by simpa [Action.spares] using hspares
      exact h.take_other hne hm
  | leave other =>
      have hne : other ≠ place := by simpa [Action.spares] using hspares
      exact h.drop_other hne
  | stop => cases hspares

/-- What is to be seen of a step is nothing that a spared subscriber took. -/
theorem step_taken_by (hspares : action.spares place = true)
    (hstep : s.step now action = some (s', more)) : takenBy place more = [] := by
  cases step_moves hstep with
  | publish => exact sending_taken_by _ _
  | take other hm =>
      have hne : other ≠ place := by simpa [Action.spares] using hspares
      simp [takenBy, hne]
  | stop => cases hspares
  | _ => rfl

/-- A step moves the backends by their own actions, and a choice that is to be seen of it is one of
them. -/
theorem step_backends (hstep : s.step now action = some (s', more)) :
    Backend.Onward s.backends s'.backends ∧
      ∀ i, some i ∈ choices more → i < s'.backends.length := by
  cases step_moves hstep with
  | @finishCycle m backends effects _ hm =>
      obtain ⟨polls, outcomes, statuses, shown, chosen, -, -, happly, -⟩ :=
        Monitor.finish_cycle_cases hm
      have haside := Monitor.apply_outcomes_aside s.backends s.monitor.statuses outcomes
      rw [happly] at haside
      refine ⟨haside.onward, fun i hi => ?_⟩
      have hchosen : m.choose backends = some i := (List.mem_singleton.mp hi).symm
      exact Monitor.choose_lt hchosen
  | publish =>
      refine ⟨.refl _, fun i hi => ?_⟩
      rw [sending_choices] at hi
      cases hi
  | _ => exact ⟨.refl _, fun _ hi => absurd hi List.not_mem_nil⟩

/-- Nothing but a stop stops a monitor. -/
theorem step_running (hspares : action.spares place = true)
    (hrunning : s.monitor.isStopped = false) (hstep : s.step now action = some (s', more)) :
    s'.monitor.isStopped = false := by
  cases step_moves hstep with
  | beginCycle hm =>
      obtain ⟨-, rfl⟩ := Monitor.begin_cycle_cases hm
      rfl
  | answer i result => exact Monitor.modify_poll_running hrunning i _
  | crash i error => exact Monitor.modify_poll_running hrunning i _
  | finishCycle hm =>
      obtain ⟨-, -, -, -, -, -, -, -, -, ⟨-, rfl⟩ | ⟨-, rfl⟩⟩ := Monitor.finish_cycle_cases hm
      · rfl
      · rfl
  | publish hm =>
      obtain ⟨n, -, ⟨-, rfl⟩ | ⟨c, -, ⟨-, rfl⟩ | ⟨-, -, rfl⟩⟩⟩ := Monitor.step_publish_cases hm
      · rfl
      · rfl
      · rfl
  | take other hm =>
      obtain ⟨c, -, -, rfl⟩ := Monitor.take_election_cases hm
      exact hrunning
  | leave other => exact hrunning
  | stop => cases hspares

end Monitoring

/-! ## What the status logger counts -/

/-- What is shown of an elected backend. -/
def shownOf {α : Type} (backends : List Backend) (view : Nat → Backend → α) (e : Elected) :
    Option α :=
  e.bind fun i => backends[i]?.map (view i)

/-- What depends on the configuration alone is shown of an elected backend at any time. -/
theorem shown_of_configured {α : Type} {view : Nat → Backend → α}
    (hview : ∀ i b, view i b.asConfigured = view i b) {backends configured : List Backend}
    (hconfigured : backends.map Backend.asConfigured = configured) (e : Elected) :
    shownOf backends view e = shownOf configured view e := by
  cases e with
  | none => rfl
  | some i =>
      rw [← hconfigured, shownOf, shownOf, Option.bind_some, Option.bind_some, List.getElem?_map,
        Option.map_map]
      congr 1
      funext b
      exact (hview i b).symm

/-- The place and the name of a backend. -/
def named (i : Nat) (b : Backend) : Nat × String := (i, b.name)

/-- After a number of elections a tracker has the latest one as active, and has counted the backends
that were replaced, the last of which it names. -/
structure FailoverTracker.Tracks (configured : List Backend) (taken : List Elected)
    (t : FailoverTracker) : Prop where
  active : t.active = shownOf configured named (taken.getLastD none)
  count : (t.latest.map (·.count)).getD 0 = (replaced taken).length
  from_eq : t.latest.map (·.replaced) =
    (replaced taken).getLast?.bind fun i => configured[i]?.map (·.name)

theorem FailoverTracker.start_tracks (configured : List Backend) :
    FailoverTracker.start.Tracks configured [] :=
  ⟨rfl, rfl, rfl⟩

/-- One more election is a failover if it differs from a backend that was active. -/
theorem FailoverTracker.Tracks.observe {configured : List Backend} {taken : List Elected}
    {t : FailoverTracker} (h : t.Tracks configured taken) {e : Elected}
    (hrange : ∀ i, some i ∈ taken ++ [e] → i < configured.length) (now : Timestamp) :
    (t.observe (shownOf configured named e) now).Tracks configured (taken ++ [e]) := by
  have hreplaced := replaced_concat taken e
  have hplace : (shownOf configured named e).map (·.1) = e := by
    cases e with
    | none => rfl
    | some i => simp [shownOf, named, hrange i (by simp)]
  cases hlast : taken.getLastD none with
  | none =>
      -- nothing was active
      have hactive : t.active = none := by rw [h.active, hlast]; rfl
      have hsame : replaced (taken ++ [e]) = replaced taken := by
        rw [hreplaced, hlast]
        simp
      constructor
      case active => rw [List.getLastD_concat]; rfl
      case count => simpa only [FailoverTracker.observe, hactive, hsame] using h.count
      case from_eq => simpa only [FailoverTracker.observe, hactive, hsame] using h.from_eq
  | some i =>
      have hlt : i < configured.length :=
        hrange i (List.mem_append_left _ (Monitor.mem_of_getLastD hlast))
      have hactive : t.active = some (i, configured[i].name) := by
        rw [h.active, hlast]
        simp [shownOf, named, hlt]
      by_cases hsame : e = some i
      · have hnews : replaced (taken ++ [e]) = replaced taken := by
          rw [hreplaced, hlast, if_pos hsame.symm, List.append_nil]
        constructor
        case active => rw [List.getLastD_concat]; rfl
        case count =>
          simpa only [FailoverTracker.observe, hactive, hplace, if_pos hsame, hnews] using h.count
        case from_eq =>
          simpa only [FailoverTracker.observe, hactive, hplace, if_pos hsame, hnews] using h.from_eq
      · have hnews : replaced (taken ++ [e]) = replaced taken ++ [i] := by
          rw [hreplaced, hlast, if_neg (Ne.symm hsame)]
          rfl
        constructor
        case active => rw [List.getLastD_concat]; rfl
        case count =>
          simp only [FailoverTracker.observe, hactive, hplace, if_neg hsame, hnews, Option.map_some,
            Option.getD_some, h.count, List.length_append, List.length_singleton]
        case from_eq =>
          simp [FailoverTracker.observe, hactive, hplace, hsame, hnews, hlt]

/-- A report changes nothing that has been counted. -/
theorem StatusLogger.tick_tracker (l : StatusLogger) (backends : List Backend) (now : Moment) :
    (l.tick backends now).1.tracker = l.tracker := by
  unfold tick
  split
  · split <;> rfl
  · rfl
  · rfl

theorem StatusLogger.is_running_of_due {l : StatusLogger} {due : Moment} (h : l.due? = some due) :
    l.isRunning = true := by
  cases hphase : l.phase with
  | waiting due => simp [isRunning, hphase]
  | stopped => simp [due?, hphase] at h
  | failed reason => simp [due?, hphase] at h

/-- Only an election changes what the cluster shows as active. -/
theorem Cluster.act_active {c c' : Cluster} {action : Cluster.Action}
    {signals : List Cluster.Signal} {now : Timestamp} (hkeeps : action.keepsActive = true)
    (h : c.act now action = some (c', signals)) : c'.active = c.active := by
  cases action with
  | call d =>
      obtain ⟨rfl, -⟩ := Prod.mk.inj (Option.some.inj h)
      rfl
  | goOn =>
      obtain ⟨⟨next, effects⟩, hstep, heq⟩ := Option.map_eq_some_iff.mp h
      obtain ⟨rfl, -⟩ := Prod.mk.inj heq
      exact Cluster.step_active hstep
  | take place =>
      simp only [Cluster.act] at h
      split at h
      · obtain ⟨rfl, -⟩ := Prod.mk.inj (Option.some.inj h)
        rfl
      · cases h
  | leave place =>
      obtain ⟨rfl, -⟩ := Prod.mk.inj (Option.some.inj h)
      rfl
  | elect active => cases hkeeps

/-! ## What every follower has -/

namespace Following

open Monitoring (Published Signal choices sentTo takenBy choices_append taken_by_append)

variable {subscribers : Nat} {seats : Seats subscribers} {configured : List Backend}
  {s s' : Following} {signals more : List Signal} {now : Moment} {time : Timestamp}

theorem seat_ne (seats : Seats subscribers) {f g : Follower} (hne : f ≠ g) :
    (seats.seat f).val ≠ (seats.seat g).val :=
  fun heq => hne (seats.injective (Fin.ext heq))

/-- The monitor publishes as it should, every follower that is still there is informed of its latest
election, and the status logger has counted what it took. -/
structure Sound (seats : Seats subscribers) (configured : List Backend) (s : Following)
    (signals : List Signal) : Prop where
  published : s.toMonitoring.Published signals
  running : s.monitor.isStopped = false
  configured_eq : s.backends.map Backend.asConfigured = configured
  inRange : ∀ ⦃i : Nat⦄, some i ∈ choices signals → i < configured.length
  elections : s.monitor.Informs (seats.seat .runner) fun e => s.runner.nextActive = e
  shown : s.monitor.Informs (seats.seat .cluster) fun e =>
    s.cluster.active = shownOf configured (fun _ => Backend.asActive) e
  tracked : s.logger.isRunning = true → s.monitor.Informs (seats.seat .logger) fun e =>
    s.logger.tracker.active = shownOf configured named e
  tracks : s.logger.tracker.Tracks configured (takenBy (seats.seat .logger) signals)

/-- A publication does not depend on the backends. -/
theorem published_of_monitor {m : Monitoring} (h : m.Published signals) (backends : List Backend) :
    Published { m with backends } signals :=
  ⟨h.remembered, h.isPrefix, h.kept, h.reached⟩

/-- Nothing changes for the followers when backends take actions. -/
theorem Sound.of_backends (h : Sound seats configured s signals) {backends' : List Backend}
    (honward : Backend.Onward s.backends backends') :
    Sound seats configured { s with backends := backends' } signals :=
  { h with
    published := published_of_monitor h.published backends'
    configured_eq := honward.as_configured.trans h.configured_eq }

/-- A status logger that has failed leaves, and nothing changes for the others. -/
theorem Sound.leave_failed_logger (h : Sound seats configured s signals) :
    Sound seats configured (leaveFailedLogger seats s) signals := by
  unfold leaveFailedLogger
  split
  · exact h
  · rename_i hfailed
    exact { h with
      published := h.published.leave _
      running := h.running
      elections := h.elections.drop_other (seat_ne seats (by decide))
      shown := h.shown.drop_other (seat_ne seats (by decide))
      tracked := fun hrunning => absurd hrunning hfailed }

/-- A monitor and its followers are sound when they start. -/
theorem start_sound (seats : Seats subscribers) (policy : Policy) (tls : Bool) (timeout : Duration)
    (backends : List Backend) (began : Moment) (shutdownDelay interval : Duration)
    (trafficSubscribers : Nat) (now : Moment) :
    Sound seats (backends.map Backend.asConfigured)
      (start seats (.start policy tls timeout backends subscribers began) shutdownDelay interval
        trafficSubscribers now) [] := by
  apply Sound.leave_failed_logger
  exact
    { published := Monitoring.start_published policy tls timeout backends subscribers began
      running := rfl
      configured_eq := rfl
      inRange := nofun
      elections := Monitor.create_informs policy tls timeout (seats.seat .runner).isLt rfl
      shown := Monitor.create_informs policy tls timeout (seats.seat .cluster).isLt rfl
      tracked := fun _ =>
        Monitor.create_informs policy tls timeout (seats.seat .logger).isLt rfl
      tracks := FailoverTracker.start_tracks _ }

/-- The monitor takes a step, or one of its other subscribers does. -/
theorem Sound.monitor (h : Sound seats configured s signals) {action : Monitoring.Action}
    (hspares : ∀ f, action.spares (seats.seat f) = true) {next : Monitoring}
    (hstep : s.toMonitoring.step now action = some (next, more)) :
    Sound seats configured { s with toMonitoring := next } (signals ++ more) := by
  obtain ⟨honward, hrange⟩ := Monitoring.step_backends hstep
  have hconfigured : next.backends.map Backend.asConfigured = configured :=
    honward.as_configured.trans h.configured_eq
  have hlength : next.backends.length = configured.length := by
    rw [← hconfigured, List.length_map]
  constructor
  case published => exact h.published.step hstep
  case running => exact Monitoring.step_running (hspares .runner) h.running hstep
  case configured_eq => exact hconfigured
  case inRange =>
    intro i hi
    rw [choices_append] at hi
    rcases List.mem_append.mp hi with hi | hi
    · exact h.inRange hi
    · exact hlength ▸ hrange i hi
  case elections => exact Monitoring.step_informs h.elections (hspares .runner) hstep
  case shown => exact Monitoring.step_informs h.shown (hspares .cluster) hstep
  case tracked =>
    intro hrunning
    exact Monitoring.step_informs (h.tracked hrunning) (hspares .logger) hstep
  case tracks =>
    rw [taken_by_append, Monitoring.step_taken_by (hspares .logger) hstep, List.append_nil]
    exact h.tracks

/-- What a follower takes is none of another one's. -/
theorem taken_by_other {f g : Follower} (hne : f ≠ g) (e : Elected) :
    takenBy (seats.seat g) (signals ++ [.taken (seats.seat f) e]) =
      takenBy (seats.seat g) signals := by
  rw [taken_by_append]
  simp [takenBy, seat_ne seats hne]

/-- A follower that takes an election chooses nothing. -/
theorem choices_taken (place : Nat) (e : Elected) :
    choices (signals ++ [.taken place e]) = choices signals :=
  (choices_append ..).trans (List.append_nil _)

/-- The runner takes an election. -/
theorem Sound.take_election (h : Sound seats configured s signals)
    (hstep : s.takeElection seats = some (s', more)) :
    Sound seats configured s' (signals ++ more) := by
  unfold takeElection at hstep
  split at hstep
  · rename_i hready
    obtain ⟨⟨e, m'⟩, htake, heq⟩ := Option.map_eq_some_iff.mp hstep
    obtain ⟨rfl, rfl⟩ := Prod.mk.inj heq
    have honward := s.runner.begin_change_onward s.backends (.election e)
    obtain ⟨c, -, -, hm'⟩ := Monitor.take_election_cases htake
    constructor
    case published => exact published_of_monitor (h.published.take htake) _
    case running => exact hm' ▸ h.running
    case configured_eq => exact honward.as_configured.trans h.configured_eq
    case inRange =>
      rw [choices_taken]
      exact h.inRange
    case elections =>
      exact h.elections.take htake (Runner.begin_election_next (Runner.task_of_ready hready) _ _).1
    case shown => exact h.shown.take_other (seat_ne seats (by decide)) htake
    case tracked =>
      intro hrunning
      exact (h.tracked hrunning).take_other (seat_ne seats (by decide)) htake
    case tracks =>
      rw [taken_by_other (by decide)]
      exact h.tracks
  · cases hstep

/-- The cluster takes an election. -/
theorem Sound.follow_election (h : Sound seats configured s signals)
    (hstep : s.followElection seats = some (s', more)) :
    Sound seats configured s' (signals ++ more) := by
  obtain ⟨⟨e, m'⟩, htake, heq⟩ := Option.map_eq_some_iff.mp hstep
  obtain ⟨rfl, rfl⟩ := Prod.mk.inj heq
  obtain ⟨c, -, -, hm'⟩ := Monitor.take_election_cases htake
  have hshown : shownOf s.backends (fun _ => Backend.asActive) e =
      shownOf configured (fun _ => Backend.asActive) e :=
    shown_of_configured (fun _ _ => rfl) h.configured_eq e
  constructor
  case published => exact published_of_monitor (h.published.take htake) _
  case running => exact hm' ▸ h.running
  case configured_eq => exact h.configured_eq
  case inRange =>
    rw [choices_taken]
    exact h.inRange
  case elections => exact h.elections.take_other (seat_ne seats (by decide)) htake
  case shown => exact h.shown.take htake hshown
  case tracked =>
    intro hrunning
    exact (h.tracked hrunning).take_other (seat_ne seats (by decide)) htake
  case tracks =>
    rw [taken_by_other (by decide)]
    exact h.tracks

/-- What waits for a follower has been chosen. -/
theorem Sound.taken_range (h : Sound seats configured s signals) {place : Nat}
    {c : Channel Elected} (hc : s.monitor.subscribers[place]? = some c)
    (hlistened : c.listened = true) {i : Nat}
    (hi : some i ∈ takenBy place signals ++ c.waiting.toList) : i < configured.length := by
  rw [h.published.kept hc hlistened] at hi
  exact h.inRange (Monitor.mem_of_mem_changes ((h.published.isPrefix place).subset hi))

/-- The status logger takes an election. -/
theorem Sound.track_election (h : Sound seats configured s signals)
    (hstep : s.trackElection seats time = some (s', more)) :
    Sound seats configured s' (signals ++ more) := by
  unfold trackElection at hstep
  split at hstep
  · rename_i hrunning
    obtain ⟨⟨e, m'⟩, htake, heq⟩ := Option.map_eq_some_iff.mp hstep
    obtain ⟨rfl, rfl⟩ := Prod.mk.inj heq
    obtain ⟨c, hc, hwaiting, hm'⟩ := Monitor.take_election_cases htake
    obtain ⟨d, hd, hlistened, -⟩ := h.tracked hrunning
    obtain rfl := Option.some.inj (hc.symm.trans hd)
    have hnamed : shownOf s.backends named e = shownOf configured named e :=
      shown_of_configured (fun _ _ => rfl) h.configured_eq e
    constructor
    case published => exact published_of_monitor (h.published.take htake) _
    case running => exact hm' ▸ h.running
    case configured_eq => exact h.configured_eq
    case inRange =>
      rw [choices_taken]
      exact h.inRange
    case elections => exact h.elections.take_other (seat_ne seats (by decide)) htake
    case shown => exact h.shown.take_other (seat_ne seats (by decide)) htake
    case tracked => exact fun _ => (h.tracked hrunning).take htake hnamed
    case tracks =>
      have htaken : takenBy (seats.seat .logger) (signals ++ [.taken (seats.seat .logger) e]) =
          takenBy (seats.seat .logger) signals ++ [e] := by simp [takenBy]
      have hobserved : (s.logger.observe s.backends e time).tracker =
          s.logger.tracker.observe (shownOf configured named e) time := by
        rw [← hnamed]
        rfl
      simp only [htaken, hobserved]
      refine h.tracks.observe (fun i hi => h.taken_range hc hlistened ?_) time
      rwa [hwaiting, Option.toList_some]
  · cases hstep

/-- Every step leaves the followers sound. -/
theorem Sound.step (h : Sound seats configured s signals) {action : Action}
    (hstep : s.step seats now time action = some (s', more)) :
    Sound seats configured s' (signals ++ more) := by
  cases action with
  | monitor action =>
      simp only [Following.step] at hstep
      split at hstep
      · rename_i hspares
        simp only [Bool.and_eq_true] at hspares
        obtain ⟨⟨next, signals'⟩, hnext, heq⟩ := Option.map_eq_some_iff.mp hstep
        obtain ⟨rfl, rfl⟩ := Prod.mk.inj heq
        refine h.monitor (fun f => ?_) hnext
        cases f with
        | runner => exact hspares.1.1
        | logger => exact hspares.1.2
        | cluster => exact hspares.2
      · cases hstep
  | takeElection => exact h.take_election hstep
  | takeTraffic enabled =>
      simp only [Following.step] at hstep
      split at hstep
      · rename_i hready
        obtain ⟨rfl, rfl⟩ := Prod.mk.inj (Option.some.inj hstep)
        rw [List.append_nil]
        have hnext := (Runner.begin_traffic_next (Runner.task_of_ready hready) s.backends enabled).1
        exact { h.of_backends (s.runner.begin_change_onward s.backends (.traffic enabled)) with
          elections := by simpa only [hnext] using h.elections }
      · cases hstep
  | stepRunner pick =>
      obtain ⟨⟨runner, backends, effects⟩, hnext, heq⟩ := Option.map_eq_some_iff.mp hstep
      obtain ⟨rfl, rfl⟩ := Prod.mk.inj heq
      rw [List.append_nil]
      exact { h.of_backends (Runner.step_change_onward hnext) with
        elections := by simpa only [(Runner.step_change_next hnext).1] using h.elections }
  | trackElection => exact h.track_election hstep
  | report =>
      obtain ⟨next, hnext, heq⟩ := Option.map_eq_some_iff.mp hstep
      obtain ⟨rfl, rfl⟩ := Prod.mk.inj heq
      obtain ⟨due, hdue, hreport⟩ := Option.bind_eq_some_iff.mp hnext
      split at hreport
      · obtain rfl := Option.some.inj hreport
        rw [List.append_nil]
        apply Sound.leave_failed_logger
        have htracker := s.logger.tick_tracker s.backends now
        have hrunning := StatusLogger.is_running_of_due hdue
        exact { h with
          tracked := fun _ => by simpa only [htracker] using h.tracked hrunning
          tracks := by simpa only [htracker] using h.tracks }
      · cases hreport
  | followElection => exact h.follow_election hstep
  | atSwitch action =>
      simp only [Following.step] at hstep
      split at hstep
      · rename_i hkeeps
        obtain ⟨⟨cluster, seen⟩, hact, heq⟩ := Option.map_eq_some_iff.mp hstep
        obtain ⟨rfl, rfl⟩ := Prod.mk.inj heq
        rw [List.append_nil]
        have hactive := Cluster.act_active hkeeps hact
        exact { h with shown := by simpa only [hactive] using h.shown }
      · cases hstep
  | atBackend place action =>
      obtain ⟨⟨b', effects⟩, hb', heq⟩ := Option.map_eq_some_iff.mp hstep
      obtain ⟨rfl, rfl⟩ := Prod.mk.inj heq
      obtain ⟨b, hb, hnext⟩ := Option.bind_eq_some_iff.mp hb'
      rw [List.append_nil]
      exact h.of_backends (.set action hb hnext)

/-! ## Runs -/

/-- What an informed follower has seen, once nothing waits for it, is the choice of the latest
cycle. -/
theorem Sound.seen_choice (h : Sound seats configured s signals) {f : Follower}
    {seen : Elected → Prop} (hinforms : s.monitor.Informs (seats.seat f) seen)
    (hcome : ∀ n, s.monitor.phase = .publishing n → (seats.seat f).val < n)
    (hempty : ∀ c, s.monitor.subscribers[(seats.seat f).val]? = some c → c.waiting = none) :
    seen ((choices signals).getLastD none) := by
  rw [h.published.remembered]
  refine Informed.seen_of_come hinforms (fun n hn => hcome n ?_) hempty
  unfold Monitor.handing at hn
  split at hn
  · rename_i served hphase
    rw [hphase, Option.some.inj hn]
  · cases hn
  · cases hn
  · cases hn

/-- Once nothing waits for the status logger, the backends that were replaced by what it took are
those that were replaced by the choices. -/
theorem Sound.replaced_eq (h : Sound seats configured s signals)
    (hrunning : s.logger.isRunning = true)
    (hcome : ∀ n, s.monitor.phase = .publishing n → (seats.seat .logger).val < n)
    (hempty : ∀ c, s.monitor.subscribers[(seats.seat .logger).val]? = some c → c.waiting = none) :
    replaced (takenBy (seats.seat .logger) signals) = replaced (choices signals) := by
  obtain ⟨c, hc, hlistened, -⟩ := h.tracked hrunning
  have hkept := h.published.kept hc hlistened
  rw [hempty c hc, Option.toList_none, List.append_nil] at hkept
  rw [hkept, h.published.sent_of_come h.running hc hlistened hcome, replaced_changes]

/-- For every run of a monitor with its followers, whatever comes of its polls and whatever its other
subscribers do. Once the latest publication has come to the followers, nothing waits for them, and
the runner has no change on its way, either the latest cycle has chosen nobody and none of them has
an active backend, or all of them have the backend that the latest cycle has chosen. The status
logger has counted the cycles whose choice replaces the backend that the cycle before has chosen,
and names the one that was replaced last. -/
theorem followers_agree (seats : Seats subscribers) (policy : Policy) (tls : Bool)
    (timeout : Duration) (backends : List Backend) (began : Moment)
    (shutdownDelay interval : Duration) (trafficSubscribers : Nat) (now : Moment)
    (actions : List (Moment × Timestamp × Action)) {s : Following}
    {signals : List Signal}
    (hrun : (start seats (.start policy tls timeout backends subscribers began) shutdownDelay
      interval trafficSubscribers now).run seats actions = some (s, signals))
    (hcome : ∀ f n, s.monitor.phase = .publishing n → (seats.seat f).val < n)
    (hempty : ∀ f c, s.monitor.subscribers[(seats.seat f).val]? = some c → c.waiting = none)
    (hidle : s.runner.task = .idle) (hrunning : s.logger.isRunning = true) :
    ((choices signals).getLastD none = none ∧ s.runner.active = none ∧
        s.logger.tracker.active = none ∧ s.cluster.active = none ∨
      ∃ i b, (choices signals).getLastD none = some i ∧ backends[i]? = some b ∧
        s.runner.active = some i ∧ s.logger.tracker.active = some (i, b.name) ∧
        s.cluster.active = some ⟨b.host, b.port, b.name⟩) ∧
    (s.logger.tracker.latest.map (·.count)).getD 0 = (replaced (choices signals)).length ∧
    s.logger.tracker.latest.map (·.replaced) =
      (replaced (choices signals)).getLast?.bind fun i => backends[i]?.map (·.name) := by
  have h : Sound seats (backends.map Backend.asConfigured) s signals :=
    run_steps_induction (fun h hstep => h.step hstep) hrun
      (start_sound seats policy tls timeout backends began shutdownDelay interval
        trafficSubscribers now)
  have hrunner := h.seen_choice h.elections (hcome .runner) (hempty .runner)
  have hlogger := h.seen_choice (h.tracked hrunning) (hcome .logger) (hempty .logger)
  have hcluster := h.seen_choice h.shown (hcome .cluster) (hempty .cluster)
  rw [Runner.next_active_of_idle hidle] at hrunner
  rw [← shown_of_configured (fun _ _ => rfl) rfl] at hlogger hcluster
  refine ⟨?_, ?_, ?_⟩
  · cases hchosen : (choices signals).getLastD none with
    | none =>
        rw [hchosen] at hrunner hlogger hcluster
        exact .inl ⟨rfl, hrunner, hlogger, hcluster⟩
    | some i =>
        rw [hchosen] at hrunner hlogger hcluster
        have hlt : i < backends.length := by
          have hlt := h.inRange (Monitor.mem_of_getLastD hchosen)
          rwa [List.length_map] at hlt
        have hb : backends[i]? = some backends[i] := List.getElem?_eq_getElem hlt
        refine .inr ⟨i, backends[i], rfl, hb, hrunner, ?_, ?_⟩
        · rw [hlogger, shownOf, Option.bind_some, hb]
          rfl
        · rw [hcluster, shownOf, Option.bind_some, hb]
          rfl
  · rw [h.tracks.count, h.replaced_eq hrunning (hcome .logger) (hempty .logger)]
  · rw [h.tracks.from_eq, h.replaced_eq hrunning (hcome .logger) (hempty .logger)]
    simp only [List.getElem?_map, Option.map_map]
    rfl

/-- The cluster sits first, then the runner, somebody else, and the status logger. -/
def fourSeats : Seats 4 where
  seat := fun
    | .runner => 1
    | .logger => 3
    | .cluster => 0
  injective := by
    intro f g
    cases f <;> cases g <;> decide

/-- First the one node is healthy, which two cycles choose, and then the other. Somebody else leaves
in between. -/
def failingOver : List (Moment × Timestamp × Action) :=
  let cycle (now : Moment) (healthy crashed : Nat) (publications : Nat) : List (Moment × Action) :=
    [(now, .monitor .beginCycle), (now, .monitor (.answer healthy (.ok Monitoring.healthyReply))),
      (now, .monitor (.crash crashed "panic")), (now, .monitor .finishCycle)]
      ++ List.replicate publications (now, .monitor .publish)
  let actions := cycle 1000 0 1 5
    ++ [(1001, .followElection), (1002, .takeElection), (1003, .trackElection)]
    ++ cycle 2000 0 1 0 ++ [(2001, .monitor (.leave 2))]
    ++ cycle 3000 1 0 5
    ++ [(3001, .takeElection), (3001, .atBackend 1 .beginSever), (3002, .stepRunner 0),
      (3002, .stepRunner 0), (3002, .stepRunner 0), (3003, .trackElection), (3004, .report),
      (3005, .followElection)]
  actions.map fun (now, action) => (now, ⟨0, now⟩, action)

/-- All followers go over to the second node, and one failover is counted, from the first. -/
theorem followers_agree_of_fail_over :
    ∃ (s : Following) (signals : List Monitoring.Signal),
      (start fourSeats (.start .lowest false ⟨5000⟩
        [.ofConfig ⟨"a", "10.0.0.1", 3306, 9201, "status"⟩,
          .ofConfig ⟨"b", "10.0.0.2", 3307, 9201, "status"⟩] 4 0) ⟨0⟩ ⟨500⟩ 1 0).run fourSeats
        failingOver = some (s, signals) ∧
      choices signals = [some 0, some 0, some 1] ∧
      s.runner.active = some 1 ∧ s.logger.tracker.active = some (1, "b") ∧
      s.cluster.active = some ⟨"10.0.0.2", 3307, "b"⟩ ∧
      (s.logger.tracker.latest.map (·.count)).getD 0 = 1 ∧
      s.logger.tracker.latest.map (·.replaced) = some "a" := by
  have hend : ((start fourSeats (.start .lowest false ⟨5000⟩
      [.ofConfig ⟨"a", "10.0.0.1", 3306, 9201, "status"⟩,
        .ofConfig ⟨"b", "10.0.0.2", 3307, 9201, "status"⟩] 4 0) ⟨0⟩ ⟨500⟩ 1 0).run fourSeats
      failingOver).any (fun last =>
        last.1.monitor.due?.isSome ∧
        last.1.monitor.subscribers.map (·.waiting) = [none, none, none, none] ∧
        last.1.runner.task = .idle ∧ last.1.logger.isRunning = true ∧
        choices last.2 = [some 0, some 0, some 1]) = true := by
    decide +kernel
  obtain ⟨⟨s, signals⟩, hrun, hlast⟩ := (Option.any_eq_true _ _).mp hend
  obtain ⟨hdue, hwaiting, hidle, hrunning, hchoices⟩ :
      s.monitor.due?.isSome ∧ s.monitor.subscribers.map (·.waiting) = [none, none, none, none] ∧
        s.runner.task = .idle ∧ s.logger.isRunning = true ∧
        choices signals = [some 0, some 0, some 1] := of_decide_eq_true hlast
  have hcome : ∀ f n, s.monitor.phase = .publishing n → (fourSeats.seat f).val < n := by
    intro f n hphase
    simp [Monitor.due?, hphase] at hdue
  have hempty : ∀ f c, s.monitor.subscribers[(fourSeats.seat f).val]? = some c →
      c.waiting = none := by
    intro f c hc
    have hmem := List.mem_map_of_mem (f := Channel.waiting) (List.mem_of_getElem? hc)
    rw [hwaiting] at hmem
    simpa using hmem
  obtain ⟨hagree, hcount, hreplaced⟩ := followers_agree fourSeats .lowest false ⟨5000⟩ _ 0 ⟨0⟩ ⟨500⟩
    1 0 failingOver hrun hcome hempty hidle hrunning
  rw [hchoices] at hagree hcount hreplaced
  rcases hagree with ⟨hnone, -⟩ | ⟨i, b, hi, hb, hrunner, htracker, hcluster⟩
  · cases hnone
  · obtain rfl := Option.some.inj hi
    obtain rfl := Option.some.inj hb
    exact ⟨s, signals, hrun, hchoices, hrunner, htracker, hcluster, hcount, hreplaced⟩

end Following

end GaleraProxy
