import GaleraProxy.Proofs.Runner.Change

/-!
# How a runner keeps its clients at the active backend

A runner answers for some of the calls of its backends: those that it began. `Runner.Answers` says
that such a call is of the present generation of its backend only as long as the runner serves that
backend. Whatever the runner takes in, and whatever calls and severs do in the meantime, keeps it.
`Attended` says that a sever that has not returned is one that a runner is at.
-/

namespace GaleraProxy.Runner

variable {r : Runner} {backends : List Backend}

/-! ## Calls of the present generation -/

/-- The calls at some places that are of the present generation are at the backend that the runner
serves. -/
def Answers (r : Runner) (backends : List Backend) (mine : Nat → Nat → Prop) : Prop :=
  ∀ ⦃j i : Nat⦄ ⦃b : Backend⦄ ⦃c : Call⦄, backends[j]? = some b → b.calls[i]? = some c →
    mine j i → c.generation ≤ b.generation ∧ (c.generation = b.generation → r.Serves j)

variable {mine mine' : Nat → Nat → Prop}

/-- A runner that answers for calls answers for some of them. -/
theorem Answers.of_subset (h : r.Answers backends mine)
    (hmine : ∀ {j i : Nat} {b : Backend}, backends[j]? = some b → i < b.calls.length →
      mine' j i → mine j i) : r.Answers backends mine' :=
  fun _ _ _ _ hb hc hown => h hb hc (hmine hb (List.getElem?_eq_some_iff.mp hc).1 hown)

/-- What a runner answers for outlasts whatever begins no call. -/
theorem Answers.follow (h : r.Answers backends mine) {backends' : List Backend}
    (hfollows : ∀ {j : Nat} {b' : Backend}, backends'[j]? = some b' →
      ∃ b, backends[j]? = some b ∧ b.Follows b') : r.Answers backends' mine := by
  intro j i b' c' hb' hc' hmine
  obtain ⟨b, hb, hfollow⟩ := hfollows hb'
  obtain ⟨c, hc, hgeneration⟩ := hfollow.calls hc'
  obtain ⟨hle, hserves⟩ := h hb hc hmine
  have hlater := hfollow.generation_le
  exact ⟨by omega, fun heq => hserves (by omega)⟩

/-- What a runner answers for outlasts the steps of a sever. -/
theorem Answers.set (h : r.Answers backends mine) {j : Nat} {b b' : Backend}
    (hb : backends[j]? = some b) (hfollows : b.Follows b') :
    r.Answers (backends.set j b') mine := by
  refine h.follow fun {k d} hd => ?_
  rw [getElem?_set_of_getElem? hb] at hd
  split at hd
  · subst k
    obtain rfl := Option.some.inj hd
    exact ⟨b, hb, hfollows⟩
  · exact ⟨d, hd, .refl d⟩

/-- A call that begins at a backend is of the present generation. -/
theorem Answers.begin_call (h : r.Answers backends mine) {j : Nat} {b : Backend}
    (hb : backends[j]? = some b) (client : Duplex)
    (hnew : mine j b.calls.length → r.Serves j) :
    r.Answers (backends.set j (b.beginCall client b.generation)) mine := by
  intro k i d c hd hc hmine
  rw [getElem?_set_of_getElem? hb] at hd
  split at hd
  · subst k
    obtain rfl := Option.some.inj hd
    by_cases hlt : i < b.calls.length
    · have hold := h hb ((List.getElem?_append_left hlt).symm.trans hc) hmine
      exact hold
    · have hi : i = b.calls.length := by
        have hle := (List.getElem?_eq_some_iff.mp hc).1
        simp only [Backend.beginCall, List.length_append, List.length_singleton] at hle
        omega
      subst i
      obtain rfl := Option.some.inj (List.getElem?_concat_length.symm.trans hc)
      exact ⟨Nat.le_refl _, fun _ => hnew hmine⟩
  · exact h hd hc hmine

/-- A runner that takes in a change severs the backend that loses its clients. -/
theorem Answers.begin_change (h : r.Answers backends mine) (change : Change) :
    (r.beginChange backends change).1.Answers (r.beginChange backends change).2.1 mine := by
  rcases r.begin_change_cases backends change with
    ⟨hr, hbackends, hnone⟩ | ⟨i, b, hsevered, hb, hr, hbackends⟩
  · rw [hr, hbackends]
    intro j n b c hb hc hmine
    obtain ⟨hle, hserves⟩ := h hb hc hmine
    refine ⟨hle, fun heq => (hserves heq).apply_change fun hsevered => ?_⟩
    cases (hnone j hsevered).symm.trans hb
  · rw [hr, hbackends]
    intro j n d c hd hc hmine
    rw [getElem?_set_of_getElem? hb] at hd
    split at hd
    · -- the calls of the severed backend are of an earlier generation now
      subst j
      obtain rfl := Option.some.inj hd
      obtain ⟨hle, -⟩ := h hb hc hmine
      have hnow : b.beginSever.1.generation = b.generation + 1 := rfl
      exact ⟨by omega, fun heq => by omega⟩
    · rename_i hne
      obtain ⟨hle, hserves⟩ := h hd hc hmine
      refine ⟨hle, fun heq => absurd ?_ hne⟩
      exact Option.some.inj ((active_of_severed hsevered).symm.trans (hserves heq).2.1)

/-- A runner that goes on with a change has no call of the present generation. -/
theorem Answers.step_change (h : r.Answers backends mine) {r' : Runner} {backends' : List Backend}
    {pick : Nat} {effects : List Effect}
    (hstep : r.stepChange backends pick = some (r', backends', effects)) :
    r'.Answers backends' mine := by
  obtain ⟨i, k, change, b, htask, hb, hcases⟩ := step_change_cases hstep
  rcases hcases with ⟨-, rfl, rfl⟩ | ⟨next, shown, hnext, rfl, rfl⟩
  · -- a runner that is at a sever serves nobody
    intro j n d c hd hc hmine
    obtain ⟨hle, hserves⟩ := h hd hc hmine
    exact ⟨hle, fun heq => nomatch (hserves heq).1.symm.trans htask⟩
  · exact h.set hb (Backend.step_sever_cases hnext).follows

/-- A runner sends new clients to the backend that it serves. -/
theorem Answers.accept (h : r.Answers backends mine) (hready : r.isReady = true)
    (client : Duplex) : r.Answers (r.accept backends client) mine := by
  rcases r.accept_cases backends client with heq | ⟨i, b, hroute, hb, heq⟩
  · rwa [heq]
  · rw [heq]
    exact h.begin_call hb client fun _ => serves_of_route hready hroute

/-- Once all severs of a backend have returned, a bridge that is open and has to wait is one of the
backend that the runner serves. -/
theorem Answers.serves_of_open (h : r.Answers backends mine) {j i : Nat} {b : Backend} {c : Call}
    (hconsistent : b.Consistent) (hb : backends[j]? = some b)
    (hreturned : ∀ {k : Nat} {sever : Sever}, b.severs[k]? = some sever → sever = .returned)
    (hc : b.calls[i]? = some c) (hmine : mine j i) (hwaits : b.stepCall i = none)
    {id : BridgeId} {bridge : Bridge} {point : Call.Point}
    (hstage : c.stage = .bridged id bridge point) (hopen : bridge.closed = false) :
    r.Serves j := by
  obtain ⟨-, hlate⟩ := hconsistent.present_of_open hreturned hc hstage hwaits hopen
  obtain ⟨hle, hserves⟩ := h hb hc hmine
  exact hserves (Nat.le_antisymm hle hlate)

/-! ## Severs that go on -/

/-- Every sever that has not returned is attended to. -/
def Attended (attends : Nat → Nat → Prop) (backends : List Backend) : Prop :=
  ∀ ⦃j k : Nat⦄ ⦃b : Backend⦄ ⦃sever : Sever⦄, backends[j]? = some b →
    b.severs[k]? = some sever → sever = .returned ∨ attends j k

variable {attends attends' : Nat → Nat → Prop}

/-- Severs that are the same are attended to. -/
theorem Attended.set (h : Attended attends backends) {j : Nat} {b b' : Backend}
    (hb : backends[j]? = some b) (hsevers : b'.severs = b.severs) :
    Attended attends (backends.set j b') := by
  intro k n d sever hd hsever
  rw [getElem?_set_of_getElem? hb] at hd
  split at hd
  · subst k
    obtain rfl := Option.some.inj hd
    exact h hb (hsevers ▸ hsever)
  · exact h hd hsever

/-- A runner attends to the sever that it begins. -/
theorem Attended.begin_change (h : Attended attends backends) (r : Runner) (change : Change)
    (hkept : ∀ j k, attends j k → attends' j k)
    (hown : ∀ j k, (r.beginChange backends change).1.Attends j k → attends' j k) :
    Attended attends' (r.beginChange backends change).2.1 := by
  rcases r.begin_change_cases backends change with ⟨-, heq, -⟩ | ⟨i, b, -, hb, hr, heq⟩
  · rw [heq]
    exact fun j k b sever hd hsever => (h hd hsever).imp_right (hkept j k)
  · rw [heq]
    intro j k d sever hd hsever
    rw [getElem?_set_of_getElem? hb] at hd
    split at hd
    · subst j
      obtain rfl := Option.some.inj hd
      by_cases hlt : k < b.severs.length
      · exact (h hb ((List.getElem?_append_left hlt).symm.trans hsever)).imp_right (hkept _ _)
      · -- the latest sever is the one that begins
        have hk : k = b.severs.length := by
          have hle := (List.getElem?_eq_some_iff.mp hsever).1
          simp only [Backend.beginSever, List.length_append, List.length_singleton] at hle
          omega
        subst k
        exact .inr (hown i _ ⟨change, by rw [hr]⟩)
    · exact (h hd hsever).imp_right (hkept _ _)

/-- A runner attends to its sever until that has returned. -/
theorem Attended.step_change (h : Attended attends backends) {r' : Runner}
    {backends' : List Backend} {pick : Nat} {effects : List Effect}
    (hstep : r.stepChange backends pick = some (r', backends', effects))
    (hkept : ∀ j k, attends j k → r.Attends j k ∨ attends' j k)
    (hown : ∀ j k, r'.Attends j k → attends' j k) : Attended attends' backends' := by
  obtain ⟨i, k, change, b, htask, hb, hcases⟩ := step_change_cases hstep
  rcases hcases with ⟨hreturned, rfl, rfl⟩ | ⟨next, shown, hnext, rfl, rfl⟩
  · intro j n d sever hd hsever
    rcases h hd hsever with hdone | hattends
    · exact .inl hdone
    · rcases hkept j n hattends with ⟨change', htask'⟩ | hother
      · obtain ⟨rfl, rfl, -⟩ := Task.severing.inj (htask.symm.trans htask')
        obtain rfl := Option.some.inj (hb.symm.trans hd)
        exact .inl (Option.some.inj (hsever.symm.trans hreturned))
      · exact .inr hother
  · have hkept' : ∀ j n, attends j n → attends' j n :=
      fun j n hattends => (hkept j n hattends).elim (hown j n) id
    intro j n d sever hd hsever
    rw [getElem?_set_of_getElem? hb] at hd
    split at hd
    · subst j
      obtain rfl := Option.some.inj hd
      by_cases hn : n = k
      · subst hn
        exact .inr (hown i n ⟨change, htask⟩)
      · rw [(Backend.step_sever_cases hnext).severs_of_ne hn] at hsever
        exact (h hb hsever).imp_right (hkept' i n)
    · exact (h hd hsever).imp_right (hkept' j n)

/-- New clients do not sever. -/
theorem Attended.accept (h : Attended attends backends) (r : Runner) (client : Duplex) :
    Attended attends (r.accept backends client) := by
  rcases r.accept_cases backends client with heq | ⟨i, b, -, hb, heq⟩
  · rwa [heq]
  · rw [heq]
    exact h.set hb rfl

/-! ## Moves -/

theorem Agrees.serves {r' : Runner} {j : Nat} (h : r.Agrees r') (hserves : r.Serves j) :
    r'.Serves j :=
  ⟨h.task.trans hserves.1, h.active.trans hserves.2.1, h.traffic.trans hserves.2.2⟩

/-- Whatever a runner does, it answers for its calls. -/
theorem Answers.move (h : r.Answers backends mine) {r' : Runner} {backends' : List Backend}
    (hmove : r.Move backends r' backends') : r'.Answers backends' mine := by
  cases hmove with
  | stay _ hagrees =>
      exact fun j i b c hb hc hmine =>
        (h hb hc hmine).imp_right fun hserves heq => hagrees.serves (hserves heq)
  | begin change => exact h.begin_change change
  | go hstep => exact h.step_change hstep
  | accept client hready => exact h.accept hready client
  | aside haside =>
      exact h.follow fun hb' =>
        let ⟨b, hb, hfollows, _⟩ := haside.before hb'
        ⟨b, hb, hfollows⟩

/-- Whatever another runner does, a runner answers for its calls, unless the other one begins one of
these. -/
theorem Answers.move_other (h : r.Answers backends mine) {other other' : Runner}
    {backends' : List Backend} (hmove : other.Move backends other' backends')
    (hforeign : ∀ {j : Nat} {b : Backend}, other.route = some j → backends[j]? = some b →
      ¬ mine j b.calls.length) : r.Answers backends' mine := by
  cases hmove with
  | stay => exact h
  | begin change =>
      rcases other.begin_change_cases backends change with ⟨-, heq, -⟩ | ⟨i, b, -, hb, -, heq⟩
      · rwa [heq]
      · rw [heq]
        exact h.set hb b.begin_sever_follows
  | go hstep =>
      obtain ⟨i, k, change, b, -, hb, ⟨-, -, rfl⟩ | ⟨next, shown, hnext, -, rfl⟩⟩ :=
        step_change_cases hstep
      · exact h
      · exact h.set hb (Backend.step_sever_cases hnext).follows
  | accept client =>
      rcases other.accept_cases backends client with heq | ⟨i, b, hroute, hb, heq⟩
      · rwa [heq]
      · rw [heq]
        exact h.begin_call hb client fun hmine => absurd hmine (hforeign hroute hb)
  | aside haside =>
      exact h.follow fun hb' =>
        let ⟨b, hb, hfollows, _⟩ := haside.before hb'
        ⟨b, hb, hfollows⟩

/-- Those who attend may be told in another way. -/
theorem Attended.imp (h : Attended attends backends)
    (hattends : ∀ j k, attends j k → attends' j k) : Attended attends' backends :=
  fun j k _ _ hb hsever => (h hb hsever).imp_right (hattends j k)

/-- Whatever a runner does, it attends to its severs while others attend to theirs. -/
theorem Attended.move {others : Nat → Nat → Prop}
    (h : Attended (fun j k => r.Attends j k ∨ others j k) backends) {r' : Runner}
    {backends' : List Backend} (hmove : r.Move backends r' backends') :
    Attended (fun j k => r'.Attends j k ∨ others j k) backends' := by
  cases hmove with
  | stay _ hagrees =>
      intro j k b sever hb hsever
      refine (h hb hsever).imp_right (Or.imp_left fun ⟨change, htask⟩ => ?_)
      exact ⟨change, hagrees.task.trans htask⟩
  | begin change hready =>
      refine h.begin_change r change (fun j k hattends => ?_) fun j k hown => .inl hown
      exact hattends.imp_left fun hown => absurd hown (not_attends_of_idle (task_of_ready hready))
  | go hstep =>
      exact h.step_change hstep (fun j k hattends => hattends.imp_right .inr)
        fun j k hown => .inl hown
  | accept client hready => exact h.accept r client
  | aside haside =>
      intro j k b' sever hb' hsever
      obtain ⟨b, hb, -, hsevers⟩ := haside.before hb'
      exact h hb (hsevers ▸ hsever)

end GaleraProxy.Runner
