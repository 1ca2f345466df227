import GaleraProxy.Proofs.Monitor.Agreement

/-!
# The history of failovers

A status logger is told of elections, and in between it is asked for status lines. `failovers` is
what the elections so far come to when each is compared with the one before.
`status_lines_of_history` says that the logger remembers the number of failovers and the latest one,
and that its lines tell of them and of the backends as they are.
-/

namespace GaleraProxy

/-! ## Observations and what they replace -/

/-- An election as a tracker sees it: the elected backend by place and name, and when it was seen.
-/
abbrev Observation := Option (Nat × String) × Timestamp

namespace FailoverTracker

/-- The failover that an observation is after another one, if it is one: when it was seen, and the
name of the backend that was replaced. -/
def replaces? (before after : Observation) : Option (Timestamp × String) :=
  match before.1 with
  | none => none
  | some (place, name) => if after.1.map (·.1) = some place then none else some (after.2, name)

/-- The failovers among observations, each of which is compared with the one before. -/
def failovers (observations : List Observation) : List (Timestamp × String) :=
  (observations.zip observations.tail).filterMap fun (before, after) => replaces? before after

/-- What is remembered of failovers: the latest one and their number. -/
def latestOf (failovers : List (Timestamp × String)) : Option FailoverRecord :=
  failovers.getLast?.map fun (time, name) => ⟨time, name, failovers.length⟩

theorem failovers_cons_cons (first second : Observation) (rest : List Observation) :
    failovers (first :: second :: rest) =
      (replaces? first second).toList ++ failovers (second :: rest) := by
  cases h : replaces? first second <;> simp [failovers, h]

/-- One more observation is compared with the last one. -/
theorem failovers_concat (observations : List Observation) (o : Observation) :
    failovers (observations ++ [o]) =
      failovers observations ++ (observations.getLast?.bind (replaces? · o)).toList := by
  induction observations with
  | nil => rfl
  | cons first rest ih =>
      cases rest with
      | nil =>
          rw [List.singleton_append, failovers_cons_cons]
          simp [failovers]
      | cons second others =>
          rw [List.cons_append, List.cons_append, failovers_cons_cons, ← List.cons_append, ih,
            failovers_cons_cons, List.append_assoc, List.getLast?_cons_cons]

/-- Further observations keep the failovers and add to them. -/
theorem failovers_append (observations more : List Observation) :
    failovers observations <+: failovers (observations ++ more) := by
  induction more using List.reverseRecOn with
  | nil => simp
  | append_singleton more o ih =>
      rw [← List.append_assoc, failovers_concat]
      exact ih.trans (List.prefix_append _ _)

example :
    failovers [(none, ⟨1, 0⟩), (some (0, "a"), ⟨2, 0⟩), (some (0, "a"), ⟨3, 0⟩), (none, ⟨4, 0⟩),
      (none, ⟨5, 0⟩), (some (1, "a"), ⟨6, 0⟩), (some (0, "a"), ⟨7, 0⟩)] =
        [(⟨4, 0⟩, "a"), (⟨7, 0⟩, "a")] := by
  decide

/-- A tracker that has seen observations: the last one tells which backend is active, and the
failovers among all of them what is remembered. -/
structure HasSeen (observations : List Observation) (t : FailoverTracker) : Prop where
  active : t.active = observations.getLast?.bind (·.1)
  latest : t.latest = latestOf (failovers observations)

theorem start_has_seen : start.HasSeen [] := ⟨rfl, rfl⟩

/-- A tracker adds what an observation replaces to what it remembers. -/
theorem HasSeen.observe {observations : List Observation} {t : FailoverTracker}
    (h : t.HasSeen observations) (next : Option (Nat × String)) (now : Timestamp) :
    (t.observe next now).HasSeen (observations ++ [(next, now)]) where
  active := by rw [List.getLast?_concat]; rfl
  latest := by
    have hcount : (t.latest.map (·.count)).getD 0 = (failovers observations).length := by
      rw [h.latest, latestOf]
      cases hlast : (failovers observations).getLast? with
      | none => simp [List.getLast?_eq_none_iff.mp hlast]
      | some change => rfl
    rw [failovers_concat]
    cases hlast : observations.getLast? with
    | none =>
        -- nothing has been seen before
        have hactive : t.active = none := by rw [h.active, hlast]; rfl
        simpa [FailoverTracker.observe, hactive] using h.latest
    | some before =>
        obtain ⟨seen, time⟩ := before
        have hactive : t.active = seen := by rw [h.active, hlast]; rfl
        cases seen with
        | none => simpa [FailoverTracker.observe, hactive, replaces?] using h.latest
        | some backend =>
            obtain ⟨place, name⟩ := backend
            by_cases hsame : next.map (·.1) = some place
            · simpa [FailoverTracker.observe, hactive, replaces?, hsame] using h.latest
            · simp [FailoverTracker.observe, hactive, replaces?, hsame, latestOf, hcount]

end FailoverTracker

/-! ## What a status logger is told -/

namespace StatusLogger

open FailoverTracker (failovers latestOf replaces? HasSeen)

/-- What reaches a status logger: an election that is seen at a time, or a moment at which a line
may be due. The backends are as they are then. -/
inductive Notice where
  | elected (backends : List Backend) (e : Option Nat) (now : Timestamp)
  | tick (backends : List Backend) (now : Moment)

/-- The observation that a notice is for the tracker. -/
def Notice.observation? : Notice → Option Observation
  | elected backends e now => some (shownOf backends named e, now)
  | tick .. => none

/-- What a status logger does about a notice. -/
def heed (l : StatusLogger) : Notice → StatusLogger × List Effect
  | .elected backends e now => (l.observe backends e now, [])
  | .tick backends now => l.tick backends now

/-- A status logger after notices. -/
def after (l : StatusLogger) (notices : List Notice) : StatusLogger :=
  notices.foldl (fun l n => (l.heed n).1) l

/-- The observations among notices. -/
def seen (notices : List Notice) : List Observation := notices.filterMap Notice.observation?

/-- A notice without an observation leaves the tracker alone. -/
theorem HasSeen.heed {l : StatusLogger} {observations : List Observation}
    (h : l.tracker.HasSeen observations) (n : Notice) :
    (l.heed n).1.tracker.HasSeen (observations ++ n.observation?.toList) := by
  cases n with
  | elected backends e now => exact h.observe (shownOf backends named e) now
  | tick backends now =>
      have htracker : (l.heed (.tick backends now)).1.tracker = l.tracker :=
        tick_tracker l backends now
      have hnone : (Notice.tick backends now).observation?.toList = [] := rfl
      rw [htracker, hnone, List.append_nil]
      exact h

/-- After any notices the tracker has seen the observations among them. -/
theorem after_has_seen (interval : Duration) (began : Moment) (notices : List Notice) :
    ((start interval began).after notices).tracker.HasSeen (seen notices) := by
  induction notices using List.reverseRecOn with
  | nil => exact FailoverTracker.start_has_seen
  | append_singleton notices n ih =>
      have hseen : seen (notices ++ [n]) = seen notices ++ n.observation?.toList := by
        cases hn : n.observation? <;> simp [seen, hn]
      rw [after, List.foldl_append, hseen]
      exact HasSeen.heed ih n

/-! ## Status lines -/

/-- What stands in the fields of a status line. The names of unhealthy backends are left out if
there are none, and so is all that tells of failovers. -/
theorem lookup_status_fields (r : StatusReport) :
    let line := Event.fields (.status r)
    line.lookup "total_backends" = some (.nat r.total) ∧
      line.lookup "healthy_backends" = some (.nat r.healthy) ∧
      line.lookup "unhealthy_backends" =
        (if r.unhealthy = [] then none else some (.text (Text.quotedList r.unhealthy))) ∧
      line.lookup "total_connections" = some (.nat r.sessions) ∧
      line.lookup "total_failovers" = r.failover.map (fun f => .nat f.count) ∧
      line.lookup "last_failover_at" = r.failover.map (fun f => .text f.time.text) ∧
      line.lookup "last_failover_from" = r.failover.map (fun f => .text f.replaced) := by
  obtain ⟨total, healthy, unhealthy, sessions, active, failover⟩ := r
  cases unhealthy with
  | nil => cases failover <;> exact ⟨rfl, rfl, rfl, rfl, rfl, rfl, rfl⟩
  | cons name names => cases failover <;> exact ⟨rfl, rfl, rfl, rfl, rfl, rfl, rfl⟩

/-- The names of the unhealthy backends, in the order of the configuration. -/
def unhealthyNames (backends : List Backend) : List String :=
  (backends.filter fun b => !b.healthy).map (·.name)

theorem unhealthy_names_eq_nil_iff {backends : List Backend} :
    unhealthyNames backends = [] ↔ ∀ b ∈ backends, b.healthy = true := by
  simp [unhealthyNames]

/-- Every backend is healthy or one of the unhealthy ones. -/
theorem healthy_add_unhealthy (backends : List Backend) :
    (backends.filter (·.healthy)).length + (unhealthyNames backends).length = backends.length := by
  rw [unhealthyNames, List.length_map, ← List.countP_eq_length_filter,
    ← List.countP_eq_length_filter, List.length_eq_countP_add_countP Backend.healthy]
  simp

/-- A line about backends counts them and their sessions as they are, and names the unhealthy ones.
-/
theorem lookup_collected (backends : List Backend) (tracker : FailoverTracker) :
    let line := Event.fields (.status (.collect backends tracker))
    (∃ healthy, line.lookup "healthy_backends" = some (.nat healthy) ∧
        healthy + (unhealthyNames backends).length = backends.length) ∧
      line.lookup "total_backends" = some (.nat backends.length) ∧
      (line.lookup "unhealthy_backends" = none ↔ ∀ b ∈ backends, b.healthy = true) ∧
      (∀ v, line.lookup "unhealthy_backends" = some v →
        v = .text (Text.quotedList (unhealthyNames backends))) ∧
      line.lookup "total_connections" = some (.nat (backends.map (·.sessions)).sum) := by
  intro line
  obtain ⟨htotal, hhealthy, hunhealthy, hsessions, -⟩ :=
    lookup_status_fields (.collect backends tracker)
  have hnames : (StatusReport.collect backends tracker).unhealthy = unhealthyNames backends := rfl
  rw [hnames] at hunhealthy
  refine ⟨⟨_, hhealthy, healthy_add_unhealthy backends⟩, htotal, ?_, ?_, ?_⟩
  · rw [hunhealthy, ← unhealthy_names_eq_nil_iff]
    by_cases hnil : unhealthyNames backends = [] <;> simp [hnil]
  · intro v hv
    rw [hunhealthy] at hv
    split at hv
    · cases hv
    · exact (Option.some.inj hv).symm
  · rw [hsessions, StatusReport.collect, List.sum_eq_foldl]
    rfl

/-- Lines are written only of the backends as they are and of what the tracker remembers, and only
at the moments at which one is due. -/
theorem tick_effects (l : StatusLogger) (backends : List Backend) (now : Moment) :
    (l.tick backends now).2 = [.log (.status (.collect backends l.tracker))] ∧
        (∃ due, l.due? = some due ∧ due ≤ now) ∨
      (l.tick backends now).2 = [] ∧ ¬ ∃ due, l.due? = some due ∧ due ≤ now := by
  unfold tick due?
  cases hphase : l.phase with
  | waiting due =>
      by_cases hdue : due ≤ now
      · exact .inl ⟨by simp [hdue], due, rfl, hdue⟩
      · refine .inr ⟨by simp [hdue], ?_⟩
        rintro ⟨other, hother, hle⟩
        cases hother
        exact hdue hle
  | stopped => exact .inr ⟨rfl, fun ⟨_, h, _⟩ => by cases h⟩
  | failed reason => exact .inr ⟨rfl, fun ⟨_, h, _⟩ => by cases h⟩

/-- A status logger remembers the number of failovers among the observations so far, and of the
latest one when it was seen and which backend was replaced. Nothing is remembered before the first
failover, and an observation that is none changes nothing. A line that is written now or later tells
all of this in three fields, or nothing of it before the first failover, and the number never
decreases; and it counts the backends and their sessions as they are. -/
theorem status_lines_of_history (interval : Duration) (began : Moment) (notices : List Notice) :
    let l := (start interval began).after notices
    let changes := failovers (seen notices)
    l.tracker.latest = latestOf changes ∧
    (∀ n : Notice, (∀ o, n.observation? = some o →
        (seen notices).getLast?.bind (replaces? · o) = none) →
      (l.heed n).1.tracker.latest = l.tracker.latest) ∧
    (∀ more, changes <+: failovers (seen (notices ++ more))) ∧
    (∀ backends now e, e ∈ (l.tick backends now).2 ↔
      e = .log (.status (.collect backends l.tracker)) ∧ ∃ due, l.due? = some due ∧ due ≤ now) ∧
    ∀ backends, let line := Event.fields (.status (.collect backends l.tracker))
      (line.lookup "total_failovers", line.lookup "last_failover_at",
          line.lookup "last_failover_from") =
        (match changes.getLast? with
        | none => (none, none, none)
        | some (time, name) =>
            (some (.nat changes.length), some (.text time.text), some (.text name))) ∧
      (∃ healthy, line.lookup "healthy_backends" = some (.nat healthy) ∧
        healthy + (unhealthyNames backends).length = backends.length) ∧
      line.lookup "total_backends" = some (.nat backends.length) ∧
      (line.lookup "unhealthy_backends" = none ↔ ∀ b ∈ backends, b.healthy = true) ∧
      (∀ v, line.lookup "unhealthy_backends" = some v →
        v = .text (Text.quotedList (unhealthyNames backends))) ∧
      line.lookup "total_connections" = some (.nat (backends.map (·.sessions)).sum) := by
  intro l changes
  have hseen : l.tracker.HasSeen (seen notices) := after_has_seen interval began notices
  refine ⟨hseen.latest, ?_, ?_, ?_, ?_⟩
  · intro n hnone
    rw [(HasSeen.heed hseen n).latest, hseen.latest]
    cases hn : n.observation? with
    | none => rw [Option.toList_none, List.append_nil]
    | some o =>
        rw [Option.toList_some, FailoverTracker.failovers_concat, hnone o hn, Option.toList_none,
          List.append_nil]
  · intro more
    rw [seen, List.filterMap_append]
    exact FailoverTracker.failovers_append _ _
  · intro backends now e
    obtain ⟨hline, hdue⟩ | ⟨hnone, hnot⟩ := tick_effects l backends now
    · rw [hline, List.mem_singleton, and_iff_left hdue]
    · rw [hnone]
      exact ⟨fun h => absurd h List.not_mem_nil, fun h => absurd h.2 hnot⟩
  · intro backends line
    obtain ⟨-, -, -, -, hcount, htime, hfrom⟩ := lookup_status_fields (.collect backends l.tracker)
    have hlatest : (StatusReport.collect backends l.tracker).failover = latestOf changes :=
      hseen.latest
    rw [hlatest] at hcount htime hfrom
    refine ⟨?_, lookup_collected backends l.tracker⟩
    rw [hcount, htime, hfrom, latestOf]
    cases changes.getLast? <;> rfl

end StatusLogger

end GaleraProxy
