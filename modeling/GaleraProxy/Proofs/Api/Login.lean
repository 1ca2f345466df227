import GaleraProxy.Proofs.Api.Access
import GaleraProxy.Proofs.Config.Checking
import GaleraProxy.Proofs.Text.Base64
import GaleraProxy.Service.Basic

/-!
# Whom the configured credentials let in

The operator logs in with the standard encoding of the configured user name, a colon and the
password. `login_passes_iff` says for which configurations this passes: the user name of a header
ends at the first colon, so a user name with a colon locks everyone out.
-/

namespace GaleraProxy

namespace Credentials

instance (b : UInt8) : Decidable (IsReadable b) := inferInstanceAs (Decidable (_ ∨ _))

/-- The value by which an operator logs in: the scheme and the standard encoding of the user name, a
colon and the password. Any part of the padding may be missing. -/
def IsLogin (c : Credentials) (value : List UInt8) : Prop :=
  ∃ text, value = schemeBytes ++ text ∧
    Base64.Encodes text (Utf8.encode (c.username ++ ":" ++ c.password))

/-- What is encoded in base64 can be read. -/
theorem isReadable_of_spells {text bytes : List UInt8} (h : Base64.Spells text bytes) :
    ∀ b ∈ text, IsReadable b := by
  have hall : (Base64.alphabet.all fun b => decide (IsReadable b)) = true := by decide +kernel
  intro b hb
  rcases h.mem_alphabet b hb with hletter | rfl
  · exact of_decide_eq_true (List.all_eq_true.mp hall b hletter)
  · show IsReadable Base64.pad
    decide

theorem isReadable_scheme : ∀ b ∈ schemeBytes, IsReadable b := by
  have hall : (schemeBytes.all fun b => decide (IsReadable b)) = true := by decide +kernel
  exact fun b hb => of_decide_eq_true (List.all_eq_true.mp hall b hb)

/-- The form of a value by which one logs in is that of credentials, but for a colon in the user
name. -/
theorem IsLogin.shows_iff {c : Credentials} {value : List UInt8} (h : c.IsLogin value) :
    c.Shows value ↔ ':' ∉ c.username.toList := by
  obtain ⟨text, rfl, hencodes⟩ := h
  have hspells := hencodes.spells
  constructor
  · intro hshows
    exact hshows.splits
  · intro hcolon
    have hreadable : ∀ b ∈ schemeBytes ++ text, IsReadable b := by
      intro b hb
      rcases List.mem_append.mp hb with hscheme | htext
      · exact isReadable_scheme b hscheme
      · exact isReadable_of_spells hspells b htext
    refine ⟨hreadable, hcolon, [], text, [], ?_, by simp, by simp, hspells⟩
    rw [List.append_nil, List.nil_append]

end Credentials

/-- The credentials that a configuration names. -/
def ApiConfig.credentials (a : ApiConfig) : Credentials := ⟨a.username, a.password⟩

namespace Service

/-- The operator passes with the configured credentials exactly if there is no colon in the user
name; if there is one, nobody passes, whatever the request. This holds in every state of the service
and for every configuration, so also for a valid one whose credentials were given outside its
file. -/
theorem login_passes_iff (s : Service) (c : Config) (source : String) (version : ConfigVersion)
    (metrics : Option Gauges) (commit : String) (uptimeSeconds : Nat) :
    let state := s.apiState c source version metrics commit uptimeSeconds
    (∀ (r : Api.Request) (value : List UInt8), r.header? "authorization" = some value →
      c.api.credentials.IsLogin value →
      (Api.isAuthorized state r = true ↔ ':' ∉ c.api.username.toList)) ∧
    (':' ∈ c.api.username.toList → ∀ r, Api.isAuthorized state r = false) := by
  intro state
  have hcredentials : state.credentials = c.api.credentials := rfl
  refine ⟨fun r value hvalue hlogin => ?_, fun hcolon r => ?_⟩
  · have hshows : c.api.credentials.Shows value ↔ ':' ∉ c.api.username.toList := hlogin.shows_iff
    rw [← hshows, ← Credentials.admits_iff, Api.isAuthorized, hvalue, hcredentials]
    rfl
  · refine Bool.eq_false_iff.mpr fun hauthorized => ?_
    obtain ⟨-, value, -, -, -, hshows⟩ := Api.isAuthorized_iff.mp hauthorized
    rw [hcredentials] at hshows
    exact hshows.splits hcolon

/-- The configuration of one node with other credentials. -/
def withCredentials (username password : String) : Config :=
  { Config.oneNode with api := ⟨8080, username, password⟩ }

/-- A request for the cluster with one header that shows a text in base64. -/
def askingWith (text : String) : Api.Request :=
  ⟨"GET", ⟨none, "", "/v0/cluster", none⟩, [Api.authorizationHeader text]⟩

/-- The password may contain a colon, and the padding may be missing. -/
theorem login_passes_iff_of_admin :
    let c := withCredentials "admin" "se:cret!"
    let state := (create c 0).apiState c "" ⟨""⟩ none "" 0
    c.validate = .ok () ∧
      Api.isAuthorized state (askingWith "Basic YWRtaW46c2U6Y3JldCE=") = true ∧
      Api.isAuthorized state (askingWith "Basic YWRtaW46c2U6Y3JldCE") = true := by
  intro c state
  have hvalid : c.validate = .ok () := (Config.validate_eq_ok_iff c).mpr (by decide +kernel)
  have hcolon : ':' ∉ c.api.username.toList := by decide
  obtain ⟨hpasses, -⟩ := login_passes_iff (create c 0) c "" ⟨""⟩ none "" 0
  have hpadded : c.api.credentials.IsLogin
      (Api.authorizationHeader "Basic YWRtaW46c2U6Y3JldCE=").2 :=
    ⟨(Api.authorizationHeader "YWRtaW46c2U6Y3JldCE=").2, by decide +kernel, 0, by decide +kernel⟩
  have hunpadded : c.api.credentials.IsLogin
      (Api.authorizationHeader "Basic YWRtaW46c2U6Y3JldCE").2 :=
    ⟨(Api.authorizationHeader "YWRtaW46c2U6Y3JldCE").2, by decide +kernel, 1, by decide +kernel⟩
  exact ⟨hvalid, (hpasses _ _ rfl hpadded).mpr hcolon, (hpasses _ _ rfl hunpadded).mpr hcolon⟩

/-- A valid configuration whose user name has a colon refuses its own credentials. -/
theorem login_refused_of_colon :
    let c := withCredentials "a:b" "c"
    let r := askingWith "Basic YTpiOmM="
    c.validate = .ok () ∧
      (∃ value, r.header? "authorization" = some value ∧ c.api.credentials.IsLogin value) ∧
      Api.isAuthorized ((create c 0).apiState c "" ⟨""⟩ none "" 0) r = false := by
  intro c r
  have hlogin : c.api.credentials.IsLogin (Api.authorizationHeader "Basic YTpiOmM=").2 :=
    ⟨(Api.authorizationHeader "YTpiOmM=").2, by decide +kernel, 0, by decide +kernel⟩
  have hvalid : c.validate = .ok () := (Config.validate_eq_ok_iff c).mpr (by decide +kernel)
  exact ⟨hvalid, ⟨_, rfl, hlogin⟩, by decide +kernel⟩

end Service

end GaleraProxy
