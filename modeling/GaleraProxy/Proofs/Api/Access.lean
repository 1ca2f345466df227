import GaleraProxy.Api.Router
import GaleraProxy.Proofs.Api.Credentials

/-!
# Access to the protected routes

A protected route answers those who show the configured credentials in their first `Authorization`
header. To everyone else it says the same in every state, and nothing is changed for them.
-/

namespace GaleraProxy.Api

/-! ## Who is authorized -/

/-- A request shows credentials in its first `Authorization` header; what stands in a later one does
not matter. -/
def Request.Presents (r : Request) (c : Credentials) : Prop :=
  ∃ before value after, r.headers = before ++ ("authorization", value) :: after ∧
    (∀ h ∈ before, h.1 ≠ "authorization") ∧ c.Shows value

theorem isAuthorized_iff {s : State} {r : Request} :
    isAuthorized s r = true ↔ r.Presents s.credentials := by
  rw [isAuthorized, Option.any_eq_true, Request.header?]
  constructor
  · rintro ⟨value, hvalue, hadmits⟩
    obtain ⟨before, after, hheaders, hbefore⟩ := List.lookup_eq_some_iff.mp hvalue
    refine ⟨before, value, after, hheaders, fun h hmem => ?_, Credentials.admits_iff.mp hadmits⟩
    exact (bne_iff_ne.mp (hbefore h hmem)).symm
  · rintro ⟨before, value, after, hheaders, hbefore, hshows⟩
    refine ⟨value, ?_, Credentials.admits_iff.mpr hshows⟩
    refine List.lookup_eq_some_iff.mpr ⟨before, after, hheaders, fun h hmem => ?_⟩
    exact bne_iff_ne.mpr (hbefore h hmem).symm

/-! ## What protected routes answer -/

/-- The methods of a route, told to those whose method is none of them. -/
def allowHeader (route : Route) (r : Request) : List (String × String) :=
  if route.methods.contains r.method then [] else [("allow", ",".intercalate route.methods)]

/-- The response to those who may not use a protected route. -/
theorem at_route_of_not_authorized {time : Timestamp → String} {s : State} {route : Route}
    {r : Request} (hprotected : route.isProtected = true) (h : isAuthorized s r = false) :
    atRoute time s route r = .answer (unauthorized (allowHeader route r)) := by
  simp [atRoute, allowHeader, hprotected, h]

/-- What those lead to who show the credentials. -/
theorem at_route_of_authorized {time : Timestamp → String} {s : State} {route : Route}
    {r : Request} (h : isAuthorized s r = true) :
    atRoute time s route r =
      if route.methods.contains r.method then handle time s route r
      else .answer (.empty 405 (allowHeader route r)) := by
  simp only [atRoute, h, Bool.not_true, Bool.and_false, Bool.false_eq_true, if_false]
  rfl

theorem status_showRoute (time : Timestamp → String) (s : State) (route : Route) :
    (showRoute time s route).status = 200 ∨ (showRoute time s route).status = 404 := by
  cases route with
  | cluster => exact .inl rfl
  | backends => exact .inl rfl
  | health => exact .inl rfl
  | metrics =>
      rw [showRoute]
      split
      · exact .inl rfl
      · exact .inr rfl

/-- Showing something is not asking for the credentials. -/
theorem status_showRoute_ne (time : Timestamp → String) (s : State) (route : Route) :
    (showRoute time s route).status ≠ 401 := by
  rcases status_showRoute time s route with h | h
  · omega
  · omega

/-- Carrying out a request never ends in asking for the credentials. -/
theorem status_handle {time : Timestamp → String} {s : State} {route : Route} {r : Request}
    {answer : Response} (h : handle time s route r = .answer answer) : answer.status ≠ 401 := by
  unfold handle at h
  split at h
  · split at h
    · cases h
    · obtain rfl := Decision.answer.inj h
      show 400 ≠ 401
      decide
  · split at h
    · obtain rfl := Decision.answer.inj h
      exact status_showRoute_ne time s route
    · obtain rfl := Decision.answer.inj h
      exact status_showRoute_ne time s route

/-- Those who show the credentials are not asked for them. -/
theorem status_at_route {time : Timestamp → String} {s : State} {route : Route} {r : Request}
    {answer : Response} (hauthorized : isAuthorized s r = true)
    (h : atRoute time s route r = .answer answer) : answer.status ≠ 401 := by
  rw [at_route_of_authorized hauthorized] at h
  split at h
  · exact status_handle h
  · obtain rfl := Decision.answer.inj h
    show 405 ≠ 401
    decide

/-! ## Access -/

/-- A request for a protected route is decided at that route. -/
theorem exists_protected_route {r : Request}
    (hroute : r.uri.routePath = "/v0/cluster" ∨ r.uri.routePath = "/v0/backends")
    (hlength : ∀ n, declaredLength? r = some n → n ≤ maxBodyBytes) :
    ∃ route : Route, route.isProtected = true ∧
      ∀ time s, respond time .admin s r = atRoute time s route r := by
  have hshort : ¬ (Port.admin = .admin ∧ (declaredLength? r).any (maxBodyBytes < ·) = true) := by
    rintro ⟨-, hlong⟩
    obtain ⟨n, hn, hlt⟩ := (Option.any_eq_true _ _).mp hlong
    exact Nat.not_le.mpr (of_decide_eq_true hlt) (hlength n hn)
  rcases hroute with hpath | hpath
  · refine ⟨.cluster, rfl, fun time s => ?_⟩
    rw [respond, if_neg hshort, hpath]
    rfl
  · refine ⟨.backends, rfl, fun time s => ?_⟩
    rw [respond, if_neg hshort, hpath]
    rfl

/-- A request for a protected route passes exactly if its first `Authorization` header shows the
configured credentials. Any other one is answered by asking for them: in every state with these
credentials the answer is the same, and neither the cluster nor what its subscribers are handed
changes. -/
theorem protected_routes_need_credentials (c : Credentials) (r : Request)
    (hroute : r.uri.routePath = "/v0/cluster" ∨ r.uri.routePath = "/v0/backends")
    (hlength : ∀ n, declaredLength? r = some n → n ≤ maxBodyBytes) :
    (∀ s : State, s.credentials = c → (isAuthorized s r = true ↔ r.Presents c)) ∧
    (r.Presents c → ∀ time s now, s.credentials = c →
      (serve time .admin s now r).1.status ≠ 401) ∧
    (¬ r.Presents c → ∃ answer : Response, answer.status = 401 ∧
      ("www-authenticate", "Basic realm=\"switchboard\"") ∈ answer.headers ∧
      ∀ time s now, s.credentials = c →
        serve time .admin s now r = (answer, s.cluster, [], [])) := by
  obtain ⟨route, hprotected, hrespond⟩ := exists_protected_route hroute hlength
  have hguard : ∀ s : State, s.credentials = c → (isAuthorized s r = true ↔ r.Presents c) := by
    rintro s rfl
    exact isAuthorized_iff
  refine ⟨hguard, fun hpresents time s now hs => ?_, fun hpresents => ?_⟩
  · have hauthorized := (hguard s hs).mpr hpresents
    rw [serve, hrespond]
    split
    · rename_i answer hanswer
      exact status_at_route hauthorized hanswer
    · show 200 ≠ 401
      decide
  · refine ⟨unauthorized (allowHeader route r), rfl, ?_, fun time s now hs => ?_⟩
    · simp [unauthorized, Response.empty]
    · have hauthorized : isAuthorized s r = false :=
        Bool.eq_false_iff.mpr fun h => hpresents ((hguard s hs).mp h)
      rw [serve, hrespond, at_route_of_not_authorized hprotected hauthorized]

/-- A header that shows a text in base64. -/
def authorizationHeader (text : String) : String × List UInt8 :=
  ("authorization", text.toList.map fun c => UInt8.ofNat c.toNat)

/-- A state of a proxy without backends. -/
def quietState (c : Credentials) : State where
  cluster := .start 2
  backends := []
  credentials := c
  metrics := none
  source := ""
  version := ⟨""⟩
  commit := ""
  uptimeSeconds := 0

/-- The password may contain colons, padding may be missing, and only the first header counts. -/
theorem protected_routes_need_credentials_of_repeated_header :
    let c : Credentials := ⟨"admin", "se:cret"⟩
    let right := authorizationHeader "Basic \tYWRtaW46c2U6Y3JldA "
    let wrong := authorizationHeader "Basic YWRtaW46c2U="
    let patch : Request :=
      ⟨"PATCH", ⟨none, "", "/v0/cluster", some "trafficEnabled=0&message=m"⟩, [right, wrong]⟩
    let delete : Request :=
      ⟨"DELETE", ⟨none, "", "/v0/backends", none⟩, [("content-length", [0x37]), wrong, right]⟩
    (∀ n, declaredLength? patch = some n → n ≤ maxBodyBytes) ∧
      (∀ n, declaredLength? delete = some n → n ≤ maxBodyBytes) ∧
      patch.Presents c ∧ ¬ delete.Presents c ∧
      (∀ time now, (serve time .admin (quietState c) now patch).1.status ≠ 401) ∧
      ∃ answer : Response, answer.status = 401 ∧
        ("www-authenticate", "Basic realm=\"switchboard\"") ∈ answer.headers ∧
        ∀ time s now, s.credentials = c →
          serve time .admin s now delete = (answer, s.cluster, [], []) := by
  intro c right wrong patch delete
  have hpatchLength : ∀ n, declaredLength? patch = some n → n ≤ maxBodyBytes := by
    have hnone : declaredLength? patch = none := by decide +kernel
    rw [hnone]
    rintro n ⟨⟩
  have hdeleteLength : ∀ n, declaredLength? delete = some n → n ≤ maxBodyBytes := by
    have hseven : declaredLength? delete = some 7 := by decide +kernel
    rw [hseven]
    rintro n ⟨⟩
    decide
  have hpatch := protected_routes_need_credentials c patch (.inl rfl) hpatchLength
  have hdelete := protected_routes_need_credentials c delete (.inr rfl) hdeleteLength
  have hright : isAuthorized (quietState c) patch = true := by decide +kernel
  have hwrong : ¬ isAuthorized (quietState c) delete = true := by decide +kernel
  have hpresents : patch.Presents c := (hpatch.1 (quietState c) rfl).mp hright
  have hnot : ¬ delete.Presents c := fun h => hwrong ((hdelete.1 (quietState c) rfl).mpr h)
  exact ⟨hpatchLength, hdeleteLength, hpresents, hnot,
    fun time now => hpatch.2.1 hpresents time (quietState c) now rfl, hdelete.2.2 hnot⟩

end GaleraProxy.Api
