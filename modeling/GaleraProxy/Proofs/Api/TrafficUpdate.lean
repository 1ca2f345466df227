import GaleraProxy.Proofs.Api.Access
import GaleraProxy.Proofs.Cluster.Alone

/-!
# Traffic is switched wholly or not at all

A request to switch traffic is carried out if its query gives the flag exactly once in one of twelve
spellings, the message at most once, and a message for disabling. `patch_all_or_nothing` says what
such a request leads to, and that any other one changes nothing.
-/

namespace GaleraProxy

/-! ## What a query asks for -/

/-- The spellings of a truth value. -/
def flagWords : Bool → List String
  | true => ["1", "t", "T", "TRUE", "true", "True"]
  | false => ["0", "f", "F", "FALSE", "false", "False"]

theorem flagOfText_eq_some_iff {word : String} {b : Bool} :
    flagOfText? word = some b ↔ word ∈ flagWords b := by
  have hdisjoint : word ∈ flagWords true → word ∉ flagWords false := by
    intro hmem
    simp only [flagWords, List.mem_cons, List.not_mem_nil, or_false] at hmem
    rcases hmem with rfl | rfl | rfl | rfl | rfl | rfl <;> decide
  have htrue : flagOfText? word =
      if word ∈ flagWords true then some true else if word ∈ flagWords false then some false
      else none := by
    simp [flagOfText?, flagWords]
  rw [htrue]
  by_cases hmem : word ∈ flagWords true
  · cases b <;> simp [hmem, hdisjoint hmem]
  · cases b <;> simp [hmem]

/-- The values of a key among fields, in their order. -/
def valuesOf (key : String) (fields : List (String × String)) : List String :=
  fields.filterMap fun field => if field.1 = key then some field.2 else none

/-- What a query asks for: exactly one flag, in one of its spellings, and at most one message. An
absent message is empty, and one is needed to disable traffic. -/
structure Asks (query : String) (enabled : Bool) (note : String) : Prop where
  one_flag : ∃ word ∈ flagWords enabled, valuesOf flagKey (Http.formFields query) = [word]
  one_note : ∃ given : Option String, valuesOf noteKey (Http.formFields query) = given.toList ∧
    given.getD "" = note
  reason : enabled = false → note ≠ ""

@[simp] theorem valuesOf_cons (key : String) (field : String × String)
    (fields : List (String × String)) :
    valuesOf key (field :: fields) =
      (if field.1 = key then [field.2] else []) ++ valuesOf key fields := by
  by_cases h : field.1 = key <;> simp [valuesOf, h]

/-- An optional value is no list of two or more. -/
theorem toList_ne_of_two {given : Option String} {first second : String} {rest : List String} :
    first :: second :: rest ≠ given.toList := by
  cases given <;> simp

/-- What one field makes of those taken in before, by its key. -/
theorem take_cases (u : UpdateFields) (field : String × String) :
    (field.1 = flagKey ∧ field.1 ≠ noteKey ∧
      (u.flag = none ∧ u.take field = .ok { u with flag := some field.2 } ∨
        ∃ word, u.flag = some word ∧ u.take field = .error (.repeated flagKey))) ∨
    (field.1 ≠ flagKey ∧ field.1 = noteKey ∧
      (u.note = none ∧ u.take field = .ok { u with note := some field.2 } ∨
        ∃ word, u.note = some word ∧ u.take field = .error (.repeated noteKey))) ∨
    (field.1 ≠ flagKey ∧ field.1 ≠ noteKey ∧ u.take field = .ok u) := by
  have hkeys : flagKey ≠ noteKey := by decide
  unfold UpdateFields.take
  by_cases hflag : field.1 = flagKey
  · cases hgiven : u.flag <;> simp [hflag, hkeys]
  · by_cases hnote : field.1 = noteKey
    · cases hgiven : u.note <;> simp [hnote, hkeys.symm]
    · simp [hflag, hnote]

/-- Fields are taken in as long as neither key is repeated. -/
theorem takes_fields_iff (fields : List (String × String)) (u u' : UpdateFields) :
    fields.foldlM UpdateFields.take u = .ok u' ↔
      u.flag.toList ++ valuesOf flagKey fields = u'.flag.toList ∧
        u.note.toList ++ valuesOf noteKey fields = u'.note.toList := by
  induction fields generalizing u with
  | nil =>
      obtain ⟨flag, note⟩ := u
      obtain ⟨flag', note'⟩ := u'
      have hinj : ∀ {a b : Option String}, a.toList = b.toList ↔ a = b := by
        intro a b
        cases a <;> cases b <;> simp
      simp [valuesOf, pure, Except.pure, hinj]
  | cons field fields ih =>
      rw [List.foldlM_cons, valuesOf_cons, valuesOf_cons]
      obtain ⟨hflag, hnote, ⟨hfirst, htake⟩ | ⟨word, hgiven, htake⟩⟩ |
          ⟨hflag, hnote, ⟨hfirst, htake⟩ | ⟨word, hgiven, htake⟩⟩ | ⟨hflag, hnote, htake⟩ :=
        take_cases u field <;>
        rw [htake]
      · rw [if_pos hflag, if_neg hnote, hfirst]
        exact ih _
      · rw [if_pos hflag, hgiven]
        exact ⟨nofun, fun h => absurd h.1 toList_ne_of_two⟩
      · rw [if_neg hflag, if_pos hnote, hfirst]
        exact ih _
      · rw [if_pos hnote, hgiven]
        exact ⟨nofun, fun h => absurd h.2 toList_ne_of_two⟩
      · rw [if_neg hflag, if_neg hnote]
        exact ih _

/-- A query is read exactly as what it asks for. -/
theorem readUpdate_eq_ok_iff {query : String} {enabled : Bool} {note : String} :
    readUpdate query = .ok (enabled, note) ↔ Asks query enabled note := by
  have htakes (u' : UpdateFields) := takes_fields_iff (Http.formFields query) ⟨none, none⟩ u'
  simp only [Option.toList_none, List.nil_append] at htakes
  unfold readUpdate
  constructor
  · intro h
    cases hfields : (Http.formFields query).foldlM UpdateFields.take ⟨none, none⟩ with
    | error e => rw [hfields] at h; cases h
    | ok u =>
        obtain ⟨hflag, hnote⟩ := (htakes u).mp hfields
        rw [hfields] at h
        obtain ⟨flag, given⟩ := u
        cases flag with
        | none => cases h
        | some word =>
            simp only [bind, Except.bind, Option.bind_some] at h
            split at h
            · cases h
            · rename_i hword
              obtain ⟨rfl, rfl⟩ := Prod.mk.inj (Except.ok.inj h)
              exact ⟨⟨word, flagOfText_eq_some_iff.mp hword, hflag⟩, ⟨given, hnote, rfl⟩, nofun⟩
            · rename_i hword
              split at h
              · cases h
              · rename_i hempty
                obtain ⟨rfl, rfl⟩ := Prod.mk.inj (Except.ok.inj h)
                refine ⟨⟨word, flagOfText_eq_some_iff.mp hword, hflag⟩, ⟨given, hnote, rfl⟩,
                  fun _ hnil => hempty ?_⟩
                rw [hnil]
                rfl
  · rintro ⟨⟨word, hword, hflag⟩, ⟨given, hnote, rfl⟩, hreason⟩
    have hfields := (htakes ⟨some word, given⟩).mpr ⟨hflag, hnote⟩
    rw [hfields]
    simp only [bind, Except.bind, Option.bind_some, flagOfText_eq_some_iff.mpr hword]
    cases enabled with
    | true => rfl
    | false =>
        have hempty : (given.getD "").isEmpty = false := by
          rw [Bool.eq_false_iff]
          exact fun hnil => hreason rfl (String.isEmpty_iff.mp hnil)
        simp [hempty]

/-- Whether a field is the flag or the message of an update. -/
def isUpdateField (field : String × String) : Bool := field.1 == flagKey || field.1 == noteKey

/-- Fields with other keys do not matter. -/
theorem takes_update_fields (fields : List (String × String)) (u : UpdateFields) :
    (fields.filter isUpdateField).foldlM UpdateFields.take u = fields.foldlM UpdateFields.take u := by
  induction fields generalizing u with
  | nil => rfl
  | cons field fields ih =>
      by_cases hupdate : isUpdateField field = true
      · rw [List.filter_cons_of_pos hupdate, List.foldlM_cons, List.foldlM_cons]
        exact congrArg (u.take field >>= ·) (funext ih)
      · have htake : u.take field = .ok u := by
          simp only [isUpdateField, Bool.or_eq_true, beq_iff_eq, not_or] at hupdate
          simp [UpdateFields.take, hupdate.1, hupdate.2]
        rw [List.filter_cons_of_neg hupdate, List.foldlM_cons, htake, ih]
        rfl

theorem readUpdate_congr {query query' : String}
    (h : (Http.formFields query).filter isUpdateField =
      (Http.formFields query').filter isUpdateField) : readUpdate query = readUpdate query' := by
  unfold readUpdate
  rw [← takes_update_fields (Http.formFields query), h, takes_update_fields]

namespace Api

/-! ## What a request to switch traffic leads to -/

/-- A request comes past the guard of the protected routes: it is not turned away for its length
beforehand, and it shows the credentials. -/
def Request.IsAdmitted (r : Request) (s : State) : Prop :=
  (∀ n, declaredLength? r = some n → n ≤ maxBodyBytes) ∧ r.Presents s.credentials

variable {time : Timestamp → String} {s : State} {r : Request}

/-- A request to switch traffic that is admitted leads to what its query asks for. -/
theorem respond_patch (hmethod : r.method = "PATCH") (hpath : r.uri.routePath = "/v0/cluster")
    (hadmitted : r.IsAdmitted s) :
    respond time .admin s r =
      match readUpdate (r.uri.query.getD "") with
      | .ok (enabled, note) => .toggle enabled note
      | .error e => .answer (.text 400 e.message) := by
  obtain ⟨hlength, hpresents⟩ := hadmitted
  have hshort : ¬ (Port.admin = .admin ∧ (declaredLength? r).any (maxBodyBytes < ·) = true) := by
    rintro ⟨-, hlong⟩
    obtain ⟨n, hn, hlt⟩ := (Option.any_eq_true _ _).mp hlong
    exact Nat.not_le.mpr (of_decide_eq_true hlt) (hlength n hn)
  have hallowed : Route.cluster.methods.contains r.method = true := by
    rw [hmethod]
    decide
  have hroute : Route.ofPath? .admin r.uri.routePath = some .cluster := by rw [hpath]; rfl
  rw [respond, if_neg hshort, hroute]
  simp only [at_route_of_authorized (isAuthorized_iff.mpr hpresents), if_pos hallowed]
  rw [handle]
  exact if_pos hmethod

/-- A request that is not admitted is answered without a look at its query. -/
theorem respond_not_admitted (time : Timestamp → String) (hpath : r.uri.routePath = "/v0/cluster")
    (hnot : ¬ r.IsAdmitted s) :
    ∃ answer : Response, (answer.status = 401 ∨ answer.status = 413) ∧
      respond time .admin s r = .answer answer := by
  have hroute : Route.ofPath? .admin r.uri.routePath = some .cluster := by rw [hpath]; rfl
  by_cases hlong : (declaredLength? r).any (maxBodyBytes < ·) = true
  · refine ⟨.text 413 "length limit exceeded", .inr rfl, ?_⟩
    rw [respond, if_pos ⟨rfl, hlong⟩]
  · have hunauthorized : isAuthorized s r = false := by
      rw [Bool.eq_false_iff]
      intro h
      refine hnot ⟨fun n hn => ?_, isAuthorized_iff.mp h⟩
      rw [hn] at hlong
      simpa using hlong
    refine ⟨unauthorized (allowHeader .cluster r), .inl rfl, ?_⟩
    rw [respond, if_neg fun h => hlong h.2, hroute]
    exact at_route_of_not_authorized rfl hunauthorized

/-- The query of an update is looked at nowhere but where it is read. -/
theorem respond_congr_query (time : Timestamp → String) (s : State) (hmethod : r.method = "PATCH")
    (hpath : r.uri.routePath = "/v0/cluster") {query : String}
    (hread : readUpdate query = readUpdate (r.uri.query.getD "")) :
    respond time .admin s { r with uri := { r.uri with query := some query } } =
      respond time .admin s r := by
  let other : Request := { r with uri := { r.uri with query := some query } }
  have hhandle : handle time s .cluster other = handle time s .cluster r := by
    rw [handle, handle, if_pos hmethod, if_pos (show other.method = "PATCH" from hmethod), ← hread]
    rfl
  have hat : atRoute time s .cluster other = atRoute time s .cluster r := by
    rw [atRoute, atRoute, hhandle]
    rfl
  have hroute : Route.ofPath? .admin r.uri.routePath = some .cluster := by rw [hpath]; rfl
  have hother : Route.ofPath? .admin other.uri.routePath = some .cluster := hroute
  have hlength : declaredLength? other = declaredLength? r := rfl
  change respond time .admin s other = respond time .admin s r
  rw [respond, respond, hother, hroute, hlength]
  simp only [hat]

/-- An update with no call before it is recorded in whole, and everybody who listens is handed what
waited for them and then the new flag. -/
theorem serve_of_toggle (now : Timestamp) {enabled : Bool} {note : String}
    (halone : s.cluster.pending = []) (hrespond : respond time .admin s r = .toggle enabled note) :
    ∃ cluster effects taken,
      serve time .admin s now r = (.json (cluster.toJson time), cluster, effects, taken) ∧
      (Response.json (cluster.toJson time)).status = 200 ∧
      cluster.decision = ⟨enabled, note⟩ ∧ cluster.updated = some now ∧
      cluster.active = s.cluster.active ∧
      ∀ place channel, s.cluster.subscribers[place]? = some channel → channel.listened = true →
        Cluster.takenAt place taken = channel.waiting.toList ++ [enabled] ∧
        cluster.subscribers[place]? = some { channel with waiting := none } := by
  let cluster : Cluster :=
    { s.cluster.record enabled note now with
      subscribers := s.cluster.subscribers.map Cluster.emptied
      called := s.cluster.called + 1 }
  have hserve : serve time .admin s now r = (.json (cluster.toJson time), cluster,
      [.log (.trafficUpdated enabled note)], Cluster.waitingAt s.cluster.subscribers ++
        Cluster.waitingAt ((s.cluster.subscribers.map Cluster.emptied).map
          (Cluster.handed enabled))) := by
    rw [serve, hrespond]
    simp only [Cluster.complete_alone halone]
    rfl
  refine ⟨_, _, _, hserve, rfl, rfl, rfl, rfl, fun place channel hchannel hlistened => ⟨?_, ?_⟩⟩
  · rw [Cluster.taken_at_append, Cluster.taken_at_waiting, Cluster.taken_at_waiting]
    simp [hchannel, Cluster.emptied, Cluster.handed, hlistened]
  · simp [cluster, hchannel, Cluster.emptied]

/-- A request to switch traffic that is admitted is carried out as a whole if its query asks for
something: the answer shows the new state, which has the flag, the message and the time and leaves
the active backend, and everybody who listens takes the flag once and nothing else besides what
waited before, in whatever order the call goes on and subscribers take what they are handed. If the
query asks for nothing, the answer is a refusal and neither the state nor what waits for subscribers
changes; so it is if the request is not admitted. Other keys never matter. -/
theorem patch_all_or_nothing (time : Timestamp → String) (s : State) (now : Timestamp) (r : Request)
    (hmethod : r.method = "PATCH") (hpath : r.uri.routePath = "/v0/cluster")
    (halone : s.cluster.pending = []) :
    let query := r.uri.query.getD ""
    (r.IsAdmitted s → ∀ enabled note, Asks query enabled note →
      (∃ cluster effects taken,
        serve time .admin s now r = (.json (cluster.toJson time), cluster, effects, taken) ∧
        (Response.json (cluster.toJson time)).status = 200 ∧
        cluster.decision = ⟨enabled, note⟩ ∧ cluster.updated = some now ∧
        cluster.active = s.cluster.active ∧
        ∀ place channel, s.cluster.subscribers[place]? = some channel → channel.listened = true →
          Cluster.takenAt place taken = channel.waiting.toList ++ [enabled] ∧
          cluster.subscribers[place]? = some { channel with waiting := none }) ∧
      respond time .admin s r = .toggle enabled note ∧
      ∀ actions cluster signals, (∀ step ∈ actions, step.2.isQuiet = true) →
        (s.cluster.beginToggle enabled note).run actions = some (cluster, signals) →
        cluster.pending = [] →
        cluster.decision = ⟨enabled, note⟩ ∧ cluster.updated.isSome ∧
        cluster.active = s.cluster.active ∧
        ∀ place channel, cluster.subscribers[place]? = some channel → channel.listened = true →
          Cluster.takenBy place signals ++ channel.waiting.toList =
            s.cluster.heldFor place ++ [enabled]) ∧
    ((r.IsAdmitted s ∧ ¬ ∃ enabled note, Asks query enabled note) →
      ∃ answer : Response, answer.status = 400 ∧
        serve time .admin s now r = (answer, s.cluster, [], [])) ∧
    (¬ r.IsAdmitted s → ∃ answer : Response, (answer.status = 401 ∨ answer.status = 413) ∧
      serve time .admin s now r = (answer, s.cluster, [], [])) ∧
    ∀ query', (Http.formFields query').filter isUpdateField =
        (Http.formFields query).filter isUpdateField →
      serve time .admin s now { r with uri := { r.uri with query := some query' } } =
        serve time .admin s now r := by
  intro query
  refine ⟨fun hadmitted enabled note hasks => ?_, fun ⟨hadmitted, hnone⟩ => ?_, fun hnot => ?_,
    fun query' hsame => ?_⟩
  · have hrespond : respond time .admin s r = .toggle enabled note := by
      rw [respond_patch hmethod hpath hadmitted, readUpdate_eq_ok_iff.mpr hasks]
    exact ⟨serve_of_toggle now halone hrespond, hrespond,
      fun actions cluster signals hquiet hrun hreturned =>
        Cluster.handed_alone halone ⟨enabled, note⟩ hquiet hrun hreturned⟩
  · have hrefused : ∃ e, readUpdate query = .error e := by
      cases hread : readUpdate query with
      | error e => exact ⟨e, rfl⟩
      | ok update => exact absurd ⟨_, _, readUpdate_eq_ok_iff.mp hread⟩ hnone
    obtain ⟨e, he⟩ := hrefused
    refine ⟨.text 400 e.message, rfl, ?_⟩
    rw [serve, respond_patch hmethod hpath hadmitted, he]
  · obtain ⟨answer, hstatus, hrespond⟩ := respond_not_admitted time hpath hnot
    exact ⟨answer, hstatus, by rw [serve, hrespond]⟩
  · rw [serve, serve, respond_congr_query time s hmethod hpath (readUpdate_congr hsame)]

/-- A request to switch traffic with a query, with credentials that the quiet state admits. -/
def patchRequest (query : String) : Request :=
  ⟨"PATCH", ⟨none, "", "/v0/cluster", some query⟩,
    [authorizationHeader "Basic YWRtaW46c2VjcmV0"]⟩

/-- Keys and values are decoded, and other keys may come in between; a flag without a message is
refused. -/
theorem patch_all_or_nothing_of_upgrade :
    let s := quietState ⟨"admin", "secret"⟩
    let query := "messag%65=up+grade&x=%&trafficEnabled=F&&x"
    (patchRequest query).method = "PATCH" ∧ (patchRequest query).uri.routePath = "/v0/cluster" ∧
      s.cluster.pending = [] ∧ Asks query false "up grade" ∧
      (∃ cluster effects taken, serve Timestamp.text .admin s ⟨7, 0⟩ (patchRequest query) =
          (.json (cluster.toJson Timestamp.text), cluster, effects, taken) ∧
        cluster.decision = ⟨false, "up grade"⟩ ∧ cluster.updated = some ⟨7, 0⟩ ∧
        Cluster.takenAt 1 taken = [false]) ∧
      ∃ answer : Response, answer.status = 400 ∧
        serve Timestamp.text .admin s ⟨7, 0⟩ (patchRequest "trafficEnabled=F&message=") =
          (answer, s.cluster, [], []) := by
  intro s query
  have hfields : Http.formFields query =
      [("message", "up grade"), ("x", "%"), ("trafficEnabled", "F"), ("x", "")] := by
    decide +kernel
  have hasks : Asks query false "up grade" :=
    ⟨⟨"F", by decide, by rw [hfields]; rfl⟩, ⟨some "up grade", by rw [hfields]; rfl, rfl⟩,
      fun _ => by decide⟩
  have hadmitted : ∀ query, (patchRequest query).IsAdmitted s := by
    intro query
    refine ⟨?_, isAuthorized_iff.mp (by rfl)⟩
    rintro n ⟨⟩
  have hnone : ¬ ∃ enabled note, Asks "trafficEnabled=F&message=" enabled note := by
    rintro ⟨enabled, note, h⟩
    have hfields : Http.formFields "trafficEnabled=F&message=" =
        [("trafficEnabled", "F"), ("message", "")] := by decide +kernel
    have hrefused : readUpdate "trafficEnabled=F&message=" = .error .noNote := by
      rw [readUpdate, hfields]
      rfl
    cases hrefused.symm.trans (readUpdate_eq_ok_iff.mpr h)
  obtain ⟨hdone, -, -, -⟩ := patch_all_or_nothing Timestamp.text s ⟨7, 0⟩ (patchRequest query)
    rfl rfl rfl
  obtain ⟨-, hrefused, -, -⟩ := patch_all_or_nothing Timestamp.text s ⟨7, 0⟩
    (patchRequest "trafficEnabled=F&message=") rfl rfl rfl
  obtain ⟨⟨cluster, effects, taken, hserve, -, hdecision, hupdated, -, hgot⟩, -, -⟩ :=
    hdone (hadmitted query) false "up grade" hasks
  exact ⟨rfl, rfl, rfl, hasks,
    ⟨cluster, effects, taken, hserve, hdecision, hupdated, (hgot 1 .empty rfl rfl).1⟩,
    hrefused ⟨hadmitted _, hnone⟩⟩

end Api

end GaleraProxy
