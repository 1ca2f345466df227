import GaleraProxy.Backend.Basic
import GaleraProxy.Proofs.Host.Valid
import GaleraProxy.Proofs.Http.Url

/-!
# Which backends can be asked for their status

The URLs of a backend are its host, a port and a path put together as they are. A valid host is
found again in them exactly if it is an IPv6 address in brackets, or has no colon and only
characters that may stand in an authority.
-/

namespace GaleraProxy

/-! ## Hosts in URLs -/

namespace Host

/-- A host that can be written in a URL as it stands. -/
def FitsUrl (host : String) : Prop :=
  (∀ c ∈ host.toList, Http.Uri.isAuthorityChar c = true ∧ c ≠ ':') ∨
  ∃ address ip, host = "[" ++ address ++ "]" ∧ Ipv6.parse? address = some ip

theorem plain_of_addressChar {c : Char} (h : Address.IsAddressChar c) :
    c = ':' ∨ Http.Uri.AuthorityScan.IsPlain c := by
  rcases h with hdigit | rfl | rfl
  · exact .inr (Http.Uri.AuthorityScan.plain_of_digit hdigit)
  · exact .inl rfl
  · exact .inr ⟨rfl, by decide⟩

variable {host : String}

/-- A valid host is intact in a URL exactly if it fits. -/
theorem intact_iff (hvalid : validate host = .ok ()) (port : UInt16) :
    Http.Uri.Intact host.toList port ↔ FitsUrl host := by
  by_cases hhead : host.toList.head? = some '['
  · obtain ⟨address, ip, hhost, hip⟩ := bracketed_of_validate hvalid hhead
    obtain ⟨hchars, hcolons⟩ := Ipv6.chars_of_parse hip
    have hintact := Http.Uri.intact_bracketed
      (fun c hc => plain_of_addressChar (hchars c hc)) hcolons port
    have htext : host.toList = '[' :: (address.toList ++ [']']) := by simp [hhost]
    exact iff_of_true (htext ▸ hintact) (.inr ⟨address, ip, hhost, hip⟩)
  · have hmarks : ∀ c ∈ ['[', ']', '@'], c ∉ host.toList := fun c hc =>
      not_mem_of_validate hvalid hhead hc
    constructor
    · intro hintact
      obtain ⟨-, hcolon, hchars, hclean⟩ := hintact.name hhead
      have hpercent : '%' ∉ host.toList := hclean (hmarks '[' (by simp))
      refine .inl fun c hc => ⟨(hchars c hc).resolve_left ?_, ?_⟩
      · exact fun heq => hpercent (heq ▸ hc)
      · exact fun heq => hcolon (heq ▸ hc)
    · rintro (hname | ⟨address, ip, rfl, -⟩)
      · refine Http.Uri.intact_name (fun c hc => ⟨(hname c hc).1, fun hspecial => ?_⟩) port
        rcases List.mem_cons.mp hspecial with hcolon | hother
        · exact (hname c hc).2 hcolon
        · exact hmarks c hother hc
      · exact absurd (by simp) hhead

end Host

/-! ## The URLs of a backend -/

/-- Whether a character of a path needs no encoding. -/
def isUnreserved (c : Char) : Bool := c.isAlphanum || "-._~".toList.contains c

theorem pathChar_of_unreserved {c : Char} (h : isUnreserved c = true ∨ c = '/') :
    Http.Uri.isPathChar c = true := by
  have hmarks : ∀ d ∈ "-._~".toList, Http.Uri.isPathChar d = true :=
    List.all_eq_true.mp (by decide)
  rw [isUnreserved, Bool.or_eq_true] at h
  rcases h with (halphanum | hmark) | rfl
  · have hrange := Http.Uri.isAlphanum_iff.mp halphanum
    simp only [Http.Uri.isPathChar, Bool.or_eq_true, Bool.and_eq_true, decide_eq_true_eq]
    omega
  · exact hmarks c (List.contains_iff_mem.mp hmark)
  · rfl

namespace Backend

/-- The ports of the status URLs. -/
def statusPorts (b : Backend) (tls : Bool) : List UInt16 :=
  if tls then [b.statusPort, agentPort] else [b.statusPort]

/-- Each status URL of a backend with a valid host names this host and its port exactly if the host
fits into a URL and the URL is not too long. -/
theorem statusUrls_name_iff {c : BackendConfig} (hvalid : Host.validate c.host = .ok ())
    (hendpoint : ∀ d ∈ c.statusEndpoint.toList, isUnreserved d = true ∨ d = '/') (tls : Bool) :
    List.Forall₂
      (fun url port => Http.Uri.Names url c.host port ↔
        Host.FitsUrl c.host ∧ url.utf8ByteSize ≤ Http.Uri.maxLength)
      ((ofConfig c).statusUrls tls) ((ofConfig c).statusPorts tls) := by
  have hpath : ∀ d ∈ (ofConfig c).statusEndpoint.toList, Http.Uri.isPathChar d = true := by
    intro d hd
    rw [ofConfig, String.toList_ofList] at hd
    exact pathChar_of_unreserved (hendpoint d ((List.dropWhile_sublist _).mem hd))
  have hnames : ∀ scheme port, Http.Uri.IsWeb scheme →
      (Http.Uri.Names ((ofConfig c).statusUrl scheme port) c.host port ↔ Host.FitsUrl c.host ∧
        ((ofConfig c).statusUrl scheme port).utf8ByteSize ≤ Http.Uri.maxLength) := by
    intro scheme port hscheme
    have hurl : (ofConfig c).statusUrl scheme port =
        scheme ++ "://" ++ c.host ++ ":" ++ toString port.toNat ++ "/" ++
          (ofConfig c).statusEndpoint := rfl
    rw [Http.Uri.names_web_iff hscheme hpath hurl, Host.intact_iff hvalid, and_comm]
  cases tls with
  | true => exact .cons (hnames _ _ (.inr rfl)) (.cons (hnames _ _ (.inl rfl)) .nil)
  | false => exact .cons (hnames _ _ (.inl rfl)) .nil

theorem statusUrls_name_of_bracketed :
    let c : BackendConfig := ⟨"db-0", "[::1]", 3306, 9201, "/api/v1/status"⟩
    Host.validate c.host = .ok () ∧
      Http.Uri.Names "https://[::1]:9201/api/v1/status" "[::1]" 9201 ∧
      Http.Uri.Names "http://[::1]:9200/api/v1/status" "[::1]" 9200 := by
  intro c
  have hvalid : Host.validate c.host = .ok () := by decide +kernel
  have hall : (c.statusEndpoint.toList.all fun d => isUnreserved d || d == '/') = true := by
    decide +kernel
  have hendpoint : ∀ d ∈ c.statusEndpoint.toList, isUnreserved d = true ∨ d = '/' := by
    intro d hd
    simpa using List.all_eq_true.mp hall d hd
  have hfits : Host.FitsUrl c.host := .inr ⟨"::1", ⟨[0, 0, 0, 0, 0, 0, 0, 1]⟩, by decide +kernel⟩
  have hnames := statusUrls_name_iff hvalid hendpoint true
  have hurls : (ofConfig c).statusUrls true =
      ["https://[::1]:9201/api/v1/status", "http://[::1]:9200/api/v1/status"] := by
    decide +kernel
  rw [hurls] at hnames
  obtain ⟨hfirst, hothers⟩ := List.forall₂_cons.mp hnames
  obtain ⟨hsecond, -⟩ := List.forall₂_cons.mp hothers
  exact ⟨hvalid, hfirst.mpr ⟨hfits, by decide +kernel⟩, hsecond.mpr ⟨hfits, by decide +kernel⟩⟩

/-- The URL of a valid backend whose host is an IPv6 address without brackets is no URI. -/
theorem statusUrl_fails_of_plain_ipv6 :
    let c : BackendConfig := ⟨"db-0", "::1", 3306, 9201, "status"⟩
    Host.validate c.host = .ok () ∧ c.port ≠ 0 ∧ c.statusPort ≠ 0 ∧
    (ofConfig c).statusUrls false = ["http://::1:9201/status"] ∧
    Http.Uri.parse "http://::1:9201/status" = .error .authority := by
  decide +kernel

end Backend

end GaleraProxy
