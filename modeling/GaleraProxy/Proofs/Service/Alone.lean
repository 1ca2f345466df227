import GaleraProxy.Proofs.Service.Mirroring.Steps

/-!
# Runs of one port

In a service without clients of the other port, a step is determined by what the port sees of it,
and so is a run of which the port sees every step: `RunsAlone.unique`.
-/

namespace GaleraProxy.Service

variable {c : Config} {s s₁ s₂ : Service} {port : ProxyPort} {now : Moment} {time : Timestamp}
  {action action' label : Action} {effects effects' : List (Component × Effect)}

/-- The same step of the call of another client. -/
def Action.withCaller (n : Nat) : Action → Action
  | .endDial _ result => .endDial n result
  | .stepCall _ => .stepCall n
  | .clientEvent _ event => .clientEvent n event
  | .serverEvent _ event => .serverEvent n event
  | action => action

/-- A port sees a step as it is, but for the place of the client whose call takes it or whose bridge
is closed. -/
theorem seen_cases (hseen : s.seenAt port action = some label) :
    label = action ∨
      (∃ pick n, action = .stepRunner port pick ∧ label = .stepRunner port n) ∨
      ∃ g n, action.caller? = some g ∧ s.placeAt? port g = some n ∧
        label = action.withCaller n := by
  have hplace : ∀ {g : Nat} {f : Nat → Action}, (s.placeAt? port g).map f = some label →
      ∃ n, s.placeAt? port g = some n ∧ label = f n := by
    intro g f heq
    obtain ⟨n, hn, rfl⟩ := Option.map_eq_some_iff.mp heq
    exact ⟨n, hn, rfl⟩
  cases action with
  | stepRunner q pick =>
      simp only [seenAt] at hseen
      split at hseen
      · rename_i hq
        subst q
        split at hseen
        · obtain ⟨n, -, rfl⟩ := Option.map_eq_some_iff.mp hseen
          exact .inr (.inl ⟨pick, n, rfl, rfl⟩)
        · obtain rfl := Option.some.inj hseen
          exact .inr (.inl ⟨pick, 0, rfl, rfl⟩)
      · cases hseen
  | endDial g result =>
      obtain ⟨n, hn, rfl⟩ := hplace hseen
      exact .inr (.inr ⟨g, n, rfl, hn, rfl⟩)
  | stepCall g =>
      obtain ⟨n, hn, rfl⟩ := hplace hseen
      exact .inr (.inr ⟨g, n, rfl, hn, rfl⟩)
  | clientEvent g event =>
      obtain ⟨n, hn, rfl⟩ := hplace hseen
      exact .inr (.inr ⟨g, n, rfl, hn, rfl⟩)
  | serverEvent g event =>
      obtain ⟨n, hn, rfl⟩ := hplace hseen
      exact .inr (.inr ⟨g, n, rfl, hn, rfl⟩)
  | toggle enabled note => exact .inl (Option.some.inj hseen).symm
  | stepToggle => exact .inl (Option.some.inj hseen).symm
  | requestShutdown => exact .inl (Option.some.inj hseen).symm
  | _ => exact .inl (seen_if hseen).2.symm

/-- What a port sees of a quiet step is quiet. -/
theorem quiet_of_seen (hseen : s.seenAt port action = some label) :
    label.isQuiet = action.isQuiet := by
  rcases seen_cases hseen with rfl | ⟨pick, n, rfl, rfl⟩ | ⟨g, n, -, -, rfl⟩
  · rfl
  · rfl
  · cases action <;> rfl

/-- If all clients are those of a port, it sees every step of its own as it is, but for the place of
the client whose bridge its runner closes. -/
theorem seen_cases_of_all (hall : ∀ client ∈ s.clients, client.port = port)
    (hseen : s.seenAt port action = some label) :
    label = action ∨ ∃ pick n, action = .stepRunner port pick ∧ label = .stepRunner port n := by
  rcases seen_cases hseen with rfl | hrunner | ⟨g, n, hcaller, hn, rfl⟩
  · exact .inl rfl
  · exact .inr hrunner
  · -- the client has the same place among all clients
    obtain ⟨client, hclient, -, -⟩ := get_of_place hn
    obtain rfl := Option.some.inj (hn.symm.trans (place_of_all hall hclient))
    cases action <;> first | exact .inl rfl | (cases hcaller; exact .inl rfl)

/-- The bridge that a runner closes is determined by its holder. -/
theorem bridge_of_holder {i n : Nat} {id id' : BridgeId} {b : Backend}
    (hb : s.backends[i]? = some b) (h : s.holder? port (i, id) = some n)
    (h' : s.holder? port (i, id') = some n) : id = id' := by
  obtain ⟨client, call, hclient, -, hcall, hhas⟩ := get_of_holder hb h
  obtain ⟨client', call', hclient', -, hcall', hhas'⟩ := get_of_holder hb h'
  obtain rfl := Option.some.inj (hclient.symm.trans hclient')
  obtain rfl := Option.some.inj (hcall.symm.trans hcall')
  exact Option.some.inj
    ((Backend.hasBridge_iff.mp hhas).symm.trans (Backend.hasBridge_iff.mp hhas'))

/-- What a port sees of a step of its runner that closes a bridge. -/
theorem holder_of_seen {pick i : Nat} {id : BridgeId}
    (hclosing : s.closing? port pick = some (i, id))
    (hseen : s.seenAt port (.stepRunner port pick) = some label) :
    ∃ n, s.holder? port (i, id) = some n ∧ label = .stepRunner port n := by
  simp only [seenAt, if_true, hclosing] at hseen
  obtain ⟨n, hholder, rfl⟩ := Option.map_eq_some_iff.mp hseen
  exact ⟨n, hholder, rfl⟩

/-- Two steps of a runner of which its port sees the same lead to the same. -/
theorem Calm.runner_determined (hcalm : s.Calm c) {pick pick' : Nat}
    (hstep : s.stepRunner port pick = some (s₁, effects))
    (hstep' : s.stepRunner port pick' = some (s₂, effects'))
    (hseen : s.seenAt port (.stepRunner port pick) = some label)
    (hseen' : s.seenAt port (.stepRunner port pick') = some label) : s₁ = s₂ := by
  obtain ⟨lane, runner, backends, shown, hlane, hchange, -⟩ := step_runner_iff.mp ⟨effects, hstep⟩
  obtain ⟨i, k, change, b, htask, hb, -⟩ := Runner.step_change_cases hchange
  have hattends : lane.runner.Attends i k := ⟨change, htask⟩
  rcases (step_runner_at hlane htask hb).mp ⟨effects, hstep⟩ with
      ⟨hreturned, rfl⟩ | ⟨next, hnext, rfl⟩ <;>
    rcases (step_runner_at hlane htask hb).mp ⟨effects', hstep'⟩ with
      ⟨hreturned', rfl⟩ | ⟨next', hnext', rfl⟩
  · -- the change takes effect, whatever is picked
    rfl
  · exact absurd hreturned (Backend.not_returned_of_step hnext')
  · exact absurd hreturned' (Backend.not_returned_of_step hnext)
  · rcases Backend.step_sever_iff.mp hnext with
        ⟨hsever, rfl⟩ | ⟨hsever, rfl⟩ | ⟨ids, id, hsever, hid, rfl⟩ <;>
      rcases Backend.step_sever_iff.mp hnext' with
        ⟨hsever', rfl⟩ | ⟨hsever', rfl⟩ | ⟨ids', id', hsever', hid', rfl⟩ <;>
      cases hsever.symm.trans hsever'
    · rfl
    · rfl
    · cases hid'
    · cases hid
    · -- both close the bridge of the same client
      obtain ⟨n, hholder, rfl⟩ :=
        holder_of_seen (closing_iff.mpr ⟨lane, k, b, ids, hlane, hattends, hb, hsever, hid⟩) hseen
      obtain ⟨n', hholder', heq⟩ :=
        holder_of_seen (closing_iff.mpr ⟨lane, k, b, ids, hlane, hattends, hb, hsever, hid'⟩) hseen'
      obtain ⟨-, rfl⟩ := Action.stepRunner.inj heq
      obtain rfl := bridge_of_holder hb hholder hholder'
      have hnodup := (hcalm.quiet.tidy hb).nodup hsever
      obtain ⟨hlt, hget⟩ := List.getElem?_eq_some_iff.mp hid
      obtain ⟨hlt', hget'⟩ := List.getElem?_eq_some_iff.mp hid'
      obtain rfl := (List.Nodup.getElem_inj_iff hnodup).mp (hget.trans hget'.symm)
      rfl

/-- Two steps of which a port sees the same lead to the same, if all clients are those of the port.
-/
theorem Calm.determined (hcalm : s.Calm c) (hall : ∀ client ∈ s.clients, client.port = port)
    (hstep : s.step now time action = some (s₁, effects))
    (hstep' : s.step now time action' = some (s₂, effects'))
    (hseen : s.seenAt port action = some label) (hseen' : s.seenAt port action' = some label) :
    s₁ = s₂ := by
  rcases seen_cases_of_all hall hseen with rfl | ⟨pick, n, rfl, rfl⟩ <;>
    rcases seen_cases_of_all hall hseen' with heq | ⟨pick', n', rfl, heq⟩
  · subst heq
    exact (Prod.mk.inj (Option.some.inj (hstep.symm.trans hstep'))).1
  · subst heq
    exact hcalm.runner_determined hstep hstep' hseen hseen'
  · subst heq
    exact hcalm.runner_determined hstep hstep' hseen hseen'
  · exact hcalm.runner_determined hstep hstep' hseen hseen'

/-- A step that a port sees leaves the other port alone. -/
theorem Calm.alone_of_seen (hcalm : s.Calm c) (hall : ∀ client ∈ s.clients, client.port = port)
    (hquiet : action.isQuiet = true) (hstep : s.step now time action = some (s₁, effects))
    (hseen : s.seenAt port action = some label) :
    s₁.lane? port.other = s.lane? port.other ∧ ∀ client ∈ s₁.clients, client.port = port := by
  obtain ⟨own, t, effects', -, hstep', hseen', -, hother, hclients⟩ :=
    (Mirrors.mk hcalm hcalm rfl hall).matches_of_seen hquiet hstep hseen
  obtain rfl := hcalm.determined hall hstep hstep' hseen hseen'
  exact ⟨hother, hclients⟩

/-- What happens in a step, and what a port sees of it. -/
theorem observe_cases {step : TimedAction} {next : Service} {shown : List TimedAction}
    (h : observe port s step = some (next, shown)) :
    ∃ effects, s.step step.1 step.2.1 step.2.2 = some (next, effects) ∧
      shown = ((s.seenAt port step.2.2).map fun label => (step.1, step.2.1, label)).toList := by
  obtain ⟨⟨next', effects⟩, hstep, heq⟩ := Option.map_eq_some_iff.mp h
  obtain ⟨rfl, rfl⟩ := Prod.mk.inj heq
  exact ⟨effects, hstep, rfl⟩

/-- A port sees one of the things that happen in a step, or nothing. -/
theorem length_le_of_run {steps seen : List TimedAction} {last : Service}
    (hrun : runSteps (observe port) s steps = some (last, seen)) : seen.length ≤ steps.length := by
  induction steps generalizing s seen with
  | nil =>
      obtain ⟨-, rfl⟩ := Prod.mk.inj (Option.some.inj hrun)
      exact Nat.le_refl 0
  | cons step rest ih =>
      obtain ⟨next, shown, others, hnext, hmore, rfl⟩ := run_steps_cons.mp hrun
      obtain ⟨effects, -, rfl⟩ := observe_cases hnext
      have hone : ∀ o : Option TimedAction, o.toList.length ≤ 1 := by
        intro o
        cases o <;> simp
      rw [List.length_append, List.length_cons, Nat.add_comm]
      exact Nat.add_le_add (ih hmore) (hone _)

/-- A run of which a port sees as many steps as there are is one in which it sees every step. -/
theorem RunsAlone.of_run {steps seen : List TimedAction} {last : Service}
    (hrun : runSteps (observe port) s steps = some (last, seen))
    (hlength : steps.length = seen.length) : s.RunsAlone port seen last := by
  induction steps generalizing s seen with
  | nil =>
      obtain ⟨rfl, rfl⟩ := Prod.mk.inj (Option.some.inj hrun)
      exact .done s
  | cons step rest ih =>
      obtain ⟨next, shown, others, hnext, hmore, rfl⟩ := run_steps_cons.mp hrun
      obtain ⟨effects, hstep, rfl⟩ := observe_cases hnext
      have hle := length_le_of_run hmore
      cases hseen : s.seenAt port step.2.2 with
      | none =>
          simp only [hseen, Option.map_none, Option.toList_none, List.nil_append,
            List.length_cons] at hlength
          omega
      | some label =>
          simp only [hseen, Option.map_some, Option.toList_some, List.length_append,
            List.length_cons, List.length_nil] at hlength
          have halone : next.RunsAlone port others last := ih hmore (by omega)
          exact .go hstep hseen halone

/-- Runs of which a port sees the same, and every step, end in the same state. -/
theorem RunsAlone.unique {seen : List TimedAction} {t t' : Service} (h : s.RunsAlone port seen t)
    (h' : s.RunsAlone port seen t') (hcalm : s.Calm c)
    (hall : ∀ client ∈ s.clients, client.port = port)
    (hquiet : ∀ step ∈ seen, step.2.2.isQuiet = true) : t = t' := by
  induction h with
  | done s =>
      cases h'
      rfl
  | @go s next last now time own label effects rest hstep hseen hrest ih =>
      obtain ⟨hlabel, hothers⟩ := List.forall_mem_cons.mp hquiet
      have hown : own.isQuiet = true := (quiet_of_seen hseen).symm.trans hlabel
      cases h' with
      | go hstep' hseen' hrest' =>
          -- the port sees the same of both first steps, so they lead to the same
          obtain rfl := hcalm.determined hall hstep hstep' hseen hseen'
          obtain ⟨-, hclients⟩ := hcalm.alone_of_seen hall hown hstep hseen
          exact ih hrest' (hcalm.step hown hstep) hclients hothers

end GaleraProxy.Service
