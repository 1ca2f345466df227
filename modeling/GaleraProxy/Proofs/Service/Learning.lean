import GaleraProxy.Proofs.Service.Soundness
import GaleraProxy.Service.Deployment

/-!
# What the monitors of a deployment know

Agents may answer in another way at any time. `Deployment.Knows` says what the flags of a deployment
stand for: the polls of a cycle that began after the latest change are on track, and after such a
cycle a monitor knows what the agents answer. `run_sound` says that this and the soundness of the
service hold after every run.
-/

namespace GaleraProxy

namespace Monitor

variable {m m' : Monitor} {replies : Replies} {configured : List Backend}

/-- What a monitor is told by the flags of its port. -/
structure Knows (m : Monitor) (replies : Replies) (configured : List Backend)
    (asking polled : Bool) : Prop where
  on_track : asking = true → m.OnTrack replies configured
  reflects : polled = true → m.Reflects replies configured

variable {asking polled : Bool}

/-- Flags that are down tell nothing. -/
theorem Knows.of_change (m : Monitor) (replies : Replies) (configured : List Backend) :
    m.Knows replies configured false false :=
  ⟨nofun, nofun⟩

theorem Knows.begin_cycle (h : m.Knows replies configured asking polled)
    {backends : List Backend} {now : Nat} (hstep : m.beginCycle backends now = some m')
    (hconfigured : backends.map Backend.asConfigured = configured) :
    m'.Knows replies configured true polled := by
  refine ⟨fun _ => on_track_of_begin_cycle hstep hconfigured, fun hpolled => ?_⟩
  obtain ⟨-, rfl⟩ := begin_cycle_cases hstep
  exact (h.reflects hpolled).of_same rfl rfl

theorem Knows.receive (h : m.Knows replies configured asking polled) {i : Nat} {url : String}
    (hurl : m.pollUrl? i = some url) :
    (m.receive i (replies url)).Knows replies configured asking polled := by
  refine ⟨fun hasking => (h.on_track hasking).receive hurl, fun hpolled => ?_⟩
  rcases m.modify_poll_cases i (Poll.receive (replies url)) with heq | ⟨polls, -, heq⟩
  · rw [Monitor.receive, heq]
    exact h.reflects hpolled
  · rw [Monitor.receive, heq]
    exact (h.reflects hpolled).of_same rfl rfl

/-- A crash spoils the cycle on its way, but not what is known already. -/
theorem Knows.crash (h : m.Knows replies configured asking polled) (i : Nat) (error : String) :
    (m.crash i error).1.Knows replies configured false polled := by
  refine ⟨nofun, fun hpolled => ?_⟩
  rcases m.modify_poll_cases i fun _ => .crashed with heq | ⟨polls, -, heq⟩
  · rw [Monitor.crash, heq]
    exact h.reflects hpolled
  · rw [Monitor.crash, heq]
    exact (h.reflects hpolled).of_same rfl rfl

/-- A cycle that was on track leaves a monitor that knows what the agents answer. -/
theorem Knows.finish_cycle (h : m.Knows replies configured asking polled)
    {backends backends' : List Backend} {now : Nat} {effects : List Effect}
    (hstep : m.finishCycle backends now = some (m', backends', effects))
    (hconfigured : backends.map Backend.asConfigured = configured)
    (hstatuses : m.statuses.length = configured.length) :
    m'.Knows replies configured asking asking := by
  refine ⟨fun _ => on_track_of_not_polling fun polls => ?_,
    fun hasking => (h.on_track hasking).finish_cycle hstep hconfigured hstatuses⟩
  obtain ⟨-, -, -, -, -, -, -, -, -, ⟨-, rfl⟩ | ⟨-, rfl⟩⟩ := finish_cycle_cases hstep
  · exact nofun
  · exact nofun

theorem Knows.publish (h : m.Knows replies configured asking polled) {now : Nat}
    (hstep : m.stepPublish now = some m') : m'.Knows replies configured asking polled := by
  obtain ⟨n, -, ⟨-, rfl⟩ | ⟨c, -, ⟨-, rfl⟩ | ⟨-, -, rfl⟩⟩⟩ := step_publish_cases hstep
  · exact ⟨fun _ => on_track_of_not_polling nofun, fun hp => (h.reflects hp).of_same rfl rfl⟩
  · exact ⟨fun _ => on_track_of_not_polling nofun, fun hp => (h.reflects hp).of_same rfl rfl⟩
  · exact ⟨fun _ => on_track_of_not_polling nofun, fun hp => (h.reflects hp).of_same rfl rfl⟩

theorem Knows.of_same (h : m.Knows replies configured asking polled)
    (hphase : m'.phase = m.phase) (hstatuses : m'.statuses = m.statuses) (htls : m'.tls = m.tls) :
    m'.Knows replies configured asking polled :=
  ⟨fun hasking => (h.on_track hasking).of_same hphase htls,
    fun hpolled => (h.reflects hpolled).of_same hstatuses htls⟩

/-- Which subscribers there are and what they take is not the concern of the polls. -/
theorem Knows.take (h : m.Knows replies configured asking polled) {place : Nat} {e : Elected}
    (hstep : m.takeElection place = some (e, m')) :
    m'.Knows replies configured asking polled := by
  obtain ⟨c, -, -, rfl⟩ := take_election_cases hstep
  exact h.of_same rfl rfl rfl

end Monitor

namespace Deployment

variable {configured : List Backend} {port q : ProxyPort} {p p' : Service.Scope}
  {action : Service.Action} {d d' : Deployment}

/-- What the flags of a port tell about a monitor. -/
def Tells (d : Deployment) (configured : List Backend) (port : ProxyPort) (m : Monitor) : Prop :=
  m.Knows d.replies configured (d.asking port) (d.polled port)

/-- A step of a lane keeps what the flags of its port tell. -/
theorem Tells.step (h : d.Tells configured port p.lane.monitor) (hstep : p.Step port action p')
    (hordinary : isOrdinary action = true)
    (hconfigured : p.backends.map Backend.asConfigured = configured)
    (hstatuses : p.lane.monitor.statuses.length = configured.length) :
    (d.note action).Tells configured port p'.lane.monitor := by
  cases hstep with
  | beginCycle hcycle =>
      simpa [Tells, note] using h.begin_cycle hcycle hconfigured
  | answer i result => cases hordinary
  | crash i error => simpa [Tells, note] using h.crash i error
  | finishCycle hcycle =>
      simpa [Tells, note] using h.finish_cycle hcycle hconfigured hstatuses
  | publish hpublish => exact h.publish hpublish
  | takeElection hready htake => exact h.take htake
  | trackElection hport htake => exact h.take htake
  | followElection hport htake => exact h.take htake
  | reportAndFail => exact h.of_same rfl rfl rfl
  | @ofCall action backends hcall haside =>
      cases action with
      | endDial | stepCall | clientEvent | serverEvent => exact h
      | _ => cases hcall
  | _ => exact h

/-- A step of a lane leaves the flags of the other port alone. -/
theorem Tells.step_other {m : Monitor} (h : d.Tells configured q m) (hq : q ≠ port)
    (hstep : p.Step port action p') : (d.note action).Tells configured q m := by
  cases hstep with
  | beginCycle => simpa [Tells, note, hq] using h
  | crash => simpa [Tells, note, hq] using h
  | finishCycle => simpa [Tells, note, hq] using h
  | @ofCall action backends hcall haside =>
      cases action with
      | endDial | stepCall | clientEvent | serverEvent => exact h
      | _ => cases hcall
  | _ => exact h

/-! ## Every run -/

/-- The service is sound, and the flags of every port tell the truth about its monitor. -/
structure Sound (c : Config) (d : Deployment) : Prop where
  service : d.service.Sound c
  tells : ∀ {port : ProxyPort} {lane : Lane}, d.service.lane? port = some lane →
    d.Tells (Service.nodes c) port lane.monitor

variable {c : Config} {now : Moment} {time : Timestamp}

theorem start_sound (c : Config) (now : Moment) (replies : Replies) :
    (start c now replies).Sound c :=
  ⟨Service.create_sound c now, fun _ => .of_change _ _ _⟩

/-- The only lane that an answer touches is the one of its port. -/
theorem answer_monitor {i : Nat} {result : Except ProxyError AgentReply}
    (h : p.Step port (.answer q i result) p') :
    port = q ∧ p'.lane.monitor = p.lane.monitor.receive i result := by
  cases h with
  | answer => exact ⟨rfl, rfl⟩
  | ofCall hcall => cases hcall

theorem Sound.ask (h : d.Sound c) {i : Nat} (hstep : d.step now time (.ask port i) = some d') :
    d'.Sound c := by
  obtain ⟨lane, hlane, hstep⟩ := Option.bind_eq_some_iff.mp hstep
  obtain ⟨url, hurl, hstep⟩ := Option.bind_eq_some_iff.mp hstep
  obtain ⟨⟨s', effects⟩, hservice, hstep⟩ := Option.bind_eq_some_iff.mp hstep
  obtain rfl := Option.some.inj hstep
  have hanswer : Service.Action.answer port i (d.replies url) ≠ .requestShutdown := nofun
  refine ⟨h.service.step hanswer hservice, fun {q other} hother => ?_⟩
  obtain ⟨port', own, own', hown, hlanes, -, -, hprogress⟩ :=
    Service.step_progress h.service.is_running hanswer hservice
  -- what the poll takes in is what the agent answers now
  obtain ⟨rfl, hmonitor⟩ := answer_monitor hprogress
  obtain rfl := Option.some.inj (hlane.symm.trans hown)
  have hget : (if q = port' then some own' else d.service.lane? q) = some other :=
    (hlanes q).symm.trans hother
  split at hget
  · subst q
    obtain rfl := Option.some.inj hget
    have hknows := (h.tells hlane).receive hurl
    rw [← show own'.monitor = lane.monitor.receive i (d.replies url) from hmonitor] at hknows
    exact hknows
  · exact h.tells hget

theorem Sound.serve (h : d.Sound c) (hstep : d.step now time (.serve action) = some d') :
    d'.Sound c := by
  simp only [Deployment.step] at hstep
  split at hstep
  · rename_i hordinary
    obtain ⟨⟨s', effects⟩, hservice, rfl⟩ := Option.map_eq_some_iff.mp hstep
    have hrequest : action ≠ .requestShutdown := by
      rintro rfl
      cases hordinary
    refine ⟨h.service.step hrequest hservice, fun {q other} hother => ?_⟩
    obtain ⟨port, lane, lane', hlane, hlanes, -, -, hprogress⟩ :=
      Service.step_progress h.service.is_running hrequest hservice
    have hget : (if q = port then some lane' else d.service.lane? q) = some other :=
      (hlanes q).symm.trans hother
    split at hget
    · subst q
      obtain rfl := Option.some.inj hget
      exact (h.tells hlane).step hprogress hordinary h.service.shared.configured_eq
        (h.service.lanes hlane).remembers.statuses
    · exact (h.tells hget).step_other ‹_› hprogress
  · cases hstep

/-- Whatever happens keeps a deployment sound. -/
theorem Sound.step (h : d.Sound c) {action : Action} (hstep : d.step now time action = some d') :
    d'.Sound c := by
  cases action with
  | change replies =>
      obtain rfl := Option.some.inj hstep
      exact ⟨h.service, fun _ => .of_change _ _ _⟩
  | ask port i => exact h.ask hstep
  | serve action => exact h.serve hstep

/-- A deployment is sound after every run. -/
theorem run_sound {actions : List (Moment × Timestamp × Action)} (h : d.Sound c)
    (hrun : d.run actions = some d') : d'.Sound c := by
  induction actions generalizing d with
  | nil => exact Option.some.inj hrun ▸ h
  | cons head rest ih =>
      obtain ⟨next, hnext, hrest⟩ := Option.bind_eq_some_iff.mp hrun
      exact ih (h.step hnext) hrest

end Deployment

end GaleraProxy
