import GaleraProxy.Proofs.Service.Lanes

/-!
# The service stays sound

`Service.Sound` gathers what holds in every state of a service before shutdown: its lanes are sound,
the cluster follows the active one, and the runner of each port answers for the clients that came
there, whatever the runner of the other port does to the backends that they share. The main results
are `create_sound` and `Sound.step`.
-/

namespace GaleraProxy.Service

/-- The backends of a configuration. -/
def nodes (c : Config) : List Backend := c.proxy.backends.map .ofConfig

/-- The calls of the clients that came at a port. -/
def SentBy (clients : List Client) (port : ProxyPort) (j i : Nat) : Prop :=
  ⟨port, j, i⟩ ∈ clients

/-- The calls of all clients have begun. -/
def Placed (backends : List Backend) (clients : List Client) : Prop :=
  ∀ ⦃client : Client⦄ ⦃b : Backend⦄, client ∈ clients → backends[client.backend]? = some b →
    client.call < b.calls.length

/-- The runner of some port is at a sever. -/
def Attends (s : Service) (j k : Nat) : Prop :=
  ∃ port lane, s.lane? port = some lane ∧ lane.runner.Attends j k

variable {configured : List Backend} {port q : ProxyPort} {p p' : Scope} {action : Action}

/-! ## Clients -/

/-- A client that is new has come at the port of the step and was sent to the backend of its
runner. -/
theorem Scope.Step.clients_cases (h : p.Step port action p') : p'.clients = p.clients ∨
    ∃ i client, p.lane.runner.route = some i ∧
      p'.backends = p.lane.runner.accept p.backends client ∧
      p'.clients = p.clients ++ [⟨port, i, (p.backends[i]?.map fun b => b.calls.length).getD 0⟩] := by
  cases h with
  | @connect client i hready hroute => exact .inr ⟨i, client, hroute, rfl, rfl⟩
  | _ => exact .inl rfl

/-- A call that had begun before a step is one of a client that had come before. -/
theorem Scope.Step.sent_before (h : p.Step port action p') {j i : Nat} {b : Backend}
    (hb : p.backends[j]? = some b) (hlt : i < b.calls.length)
    (hsent : SentBy p'.clients q j i) : SentBy p.clients q j i := by
  rcases h.clients_cases with heq | ⟨k, client, -, -, heq⟩
  · rw [heq] at hsent
    exact hsent
  · rw [SentBy, heq, List.mem_append, List.mem_singleton] at hsent
    rcases hsent with hold | hnew
    · exact hold
    · obtain ⟨-, rfl, rfl⟩ := Client.mk.inj hnew
      rw [hb, Option.map_some, Option.getD_some] at hlt
      exact absurd hlt (Nat.lt_irrefl _)

/-- A client of another port is no new one. -/
theorem Scope.Step.sent_other (h : p.Step port action p') (hq : q ≠ port) {j i : Nat}
    (hsent : SentBy p'.clients q j i) : SentBy p.clients q j i := by
  rcases h.clients_cases with heq | ⟨k, client, -, -, heq⟩
  · rw [heq] at hsent
    exact hsent
  · rw [SentBy, heq, List.mem_append, List.mem_singleton] at hsent
    rcases hsent with hold | hnew
    · exact hold
    · obtain ⟨rfl, -⟩ := Client.mk.inj hnew
      exact absurd rfl hq

theorem Scope.Step.placed (h : p.Step port action p') (hplaced : Placed p.backends p.clients) :
    Placed p'.backends p'.clients := by
  intro client b' hclient hb'
  obtain ⟨b, hb, hmoves⟩ := h.move.onward.before hb'
  have hle := hmoves.calls_length_le
  rcases h.clients_cases with heq | ⟨i, conn, hroute, hbackends, heq⟩
  · rw [heq] at hclient
    have hlt := hplaced hclient hb
    omega
  · rw [heq, List.mem_append, List.mem_singleton] at hclient
    rcases hclient with hold | rfl
    · have hlt := hplaced hold hb
      omega
    · -- the call of the new client is the last one
      simp only at hb hb' ⊢
      rw [hbackends, Runner.accept, hroute] at hb'
      simp only [modify_eq_set_of_getElem? hb, getElem?_set_of_getElem? hb, if_true] at hb'
      obtain rfl := Option.some.inj hb'
      simp [hb, Backend.beginCall]

/-- The runner of the lane that takes a step answers for the clients of its port. -/
theorem Scope.Step.answers (h : p.Step port action p')
    (hanswers : p.lane.runner.Answers p.backends (SentBy p.clients port)) :
    p'.lane.runner.Answers p'.backends (SentBy p'.clients port) :=
  (hanswers.of_subset fun hb hlt hsent => h.sent_before hb hlt hsent).move h.move

/-- The runner of the other lane answers for the clients of its own port. -/
theorem Scope.Step.answers_other (h : p.Step port action p') (hq : q ≠ port)
    (hplaced : Placed p.backends p.clients) {r : Runner}
    (hanswers : r.Answers p.backends (SentBy p.clients q)) :
    r.Answers p'.backends (SentBy p'.clients q) := by
  -- the call that another runner begins is new, so it is not one of this port
  refine (hanswers.move_other h.move fun {j b} hroute hb hsent => ?_).of_subset
    fun hb hlt hsent => h.sent_other hq hsent
  exact Nat.lt_irrefl _ (hplaced hsent hb)

/-! ## The whole service -/

/-- What holds in every state before shutdown. -/
structure Sound (c : Config) (s : Service) : Prop where
  stopping : s.stopping = false
  following : s.following = true
  shared : Shared (nodes c) s.backends s.cluster
  consistent : Backend.AllConsistent s.backends
  lanes : ∀ {port : ProxyPort} {lane : Lane}, s.lane? port = some lane →
    LaneSound (nodes c) c.agentTls.enabled s.cluster port lane
  followed : Followed (nodes c) s.cluster s.active
  answers : ∀ {port : ProxyPort} {lane : Lane}, s.lane? port = some lane →
    lane.runner.Answers s.backends (SentBy s.clients port)
  placed : Placed s.backends s.clients
  attended : Runner.Attended s.Attends s.backends

variable {c : Config} {s s' : Service}

theorem Sound.is_running (h : s.Sound c) : s.IsRunning where
  stopping := h.stopping
  following := h.following
  serving := fun hlane => (h.lanes hlane).serving

/-- The lane of a step attends to its severs while the other one attends to its own. -/
theorem Sound.attended_step (h : s.Sound c) {lane lane' : Lane} (hlane : s.lane? port = some lane)
    (hlanes : ∀ q, s'.lane? q = if q = port then some lane' else s.lane? q)
    (hmove : lane.runner.Move s.backends lane'.runner s'.backends) :
    Runner.Attended s'.Attends s'.backends := by
  -- tell the severs of this lane from those of the other one
  have hbefore : Runner.Attended (fun j k => lane.runner.Attends j k ∨
      ∃ q other, q ≠ port ∧ s.lane? q = some other ∧ other.runner.Attends j k) s.backends := by
    refine h.attended.imp fun j k => ?_
    rintro ⟨q, other, hother, hattends⟩
    by_cases hq : q = port
    · subst q
      obtain rfl := Option.some.inj (hlane.symm.trans hother)
      exact .inl hattends
    · exact .inr ⟨q, other, hq, hother, hattends⟩
  refine (hbefore.move hmove).imp fun j k hattends => ?_
  rcases hattends with hown | ⟨q, other, hq, hother, hattends⟩
  · exact ⟨port, lane', by rw [hlanes, if_pos rfl], hown⟩
  · exact ⟨q, other, by rw [hlanes, if_neg hq, hother], hattends⟩

/-- Every step of one lane keeps the whole service sound. -/
theorem Sound.progress (h : s.Sound c) (hprogress : Progress s action s') : s'.Sound c := by
  obtain ⟨port, lane, lane', hlane, hlanes, hstopping, hfollowing, hstep⟩ := hprogress
  have hown : s'.lane? port = some lane' := by rw [hlanes, if_pos rfl]
  constructor
  case stopping => exact hstopping.trans h.stopping
  case following => exact hfollowing.trans h.following
  case shared => exact hstep.shared h.shared
  case consistent => exact h.consistent.onward hstep.move.onward
  case lanes =>
    intro q other hother
    rw [hlanes] at hother
    split at hother
    · subst q
      obtain rfl := Option.some.inj hother
      exact hstep.lane_sound h.shared (h.lanes hlane)
    · exact hstep.other_sound h.shared ‹_› (h.lanes hother)
  case followed =>
    cases port with
    | active =>
        obtain rfl : s.active = lane := Option.some.inj hlane
        obtain rfl : s'.active = lane' := Option.some.inj hown
        exact hstep.followed h.shared h.followed
    | inactive =>
        have hsame : s'.active = s.active := Option.some.inj (hlanes .active)
        rw [hsame]
        exact hstep.followed_other h.followed
  case answers =>
    intro q other hother
    rw [hlanes] at hother
    split at hother
    · subst q
      obtain rfl := Option.some.inj hother
      exact hstep.answers (h.answers hlane)
    · exact hstep.answers_other ‹_› h.placed (h.answers hother)
  case placed => exact hstep.placed h.placed
  case attended => exact h.attended_step hlane hlanes hstep.move

/-- The lane of a port as it starts. -/
theorem create_lane_sound (c : Config) (now : Moment) {port : ProxyPort} {subscribers : Nat}
    (hplace : port.trafficPlace < subscribers) :
    LaneSound (nodes c) c.agentTls.enabled (.start subscribers) port (createLane c now port) where
  serving := rfl
  remembers := by
    have hlength : c.proxy.backends.length = (nodes c).length := List.length_map _ |>.symm
    simp only [createLane, hlength]
    exact Monitor.create_remembers ..
  elections := by
    refine Monitor.create_informs _ _ _ ?_ rfl
    cases port <;> decide
  decisions := Cluster.start_informs hplace rfl

/-- A service starts sound. -/
theorem create_sound (c : Config) (now : Moment) : (create c now).Sound c := by
  -- a logger that failed at once leaves as it would later
  refine Sound.progress ?_ (leave_failed_logger_progress _)
  constructor
  case stopping => rfl
  case following => rfl
  case shared =>
    refine ⟨?_, Cluster.start_orderly _⟩
    rw [nodes, List.map_map]
    rfl
  case consistent => exact Backend.all_consistent_of_config c.proxy.backends
  case lanes =>
    intro port lane hlane
    cases port with
    | active =>
        obtain rfl := Option.some.inj hlane
        refine create_lane_sound c now ?_
        split <;> decide
    | inactive =>
        obtain ⟨own, hown, rfl⟩ := Option.map_eq_some_iff.mp hlane
        refine create_lane_sound c now ?_
        rw [hown]
        exact Nat.one_lt_two
  case followed => exact Monitor.create_informs _ _ _ (by decide) rfl
  case answers =>
    intro port lane hlane j i b call hb hc hsent
    cases hsent
  case placed =>
    intro client b hclient
    cases hclient
  case attended =>
    intro j k b sever hb hsever
    obtain ⟨config, -, rfl⟩ := Option.map_eq_some_iff.mp ((List.getElem?_map ..).symm.trans hb)
    cases hsever

/-- Every step before shutdown keeps the service sound. -/
theorem Sound.step (h : s.Sound c) {now : Moment} {time : Timestamp}
    {effects : List (Component × Effect)} (hordinary : action ≠ .requestShutdown)
    (hstep : s.step now time action = some (s', effects)) : s'.Sound c :=
  h.progress (step_progress h.is_running hordinary hstep)

end GaleraProxy.Service
