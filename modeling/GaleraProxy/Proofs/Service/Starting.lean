import GaleraProxy.Proofs.Config.Checking
import GaleraProxy.Proofs.Host.SocketAddress
import GaleraProxy.Service.Listen
import Mathlib.Data.List.Nodup

/-!
# Which valid configurations let the service start

`Config.validate` and `Config.prepare` ask different questions. A valid configuration starts exactly
if, besides, every certificate of its bundle is that of an authority, its bind address is an IPv4
address or an IPv6 address in brackets, and neither the port of the API nor that of the health is a
port of the proxy.
-/

namespace GaleraProxy

/-! ## Authorities -/

theorem Pem.results_of_certificates {bundle : String} {certificates : List (List UInt8)}
    (h : Pem.certificates bundle = .ok certificates) :
    Pem.certificateResults bundle = certificates.map .ok := by
  rw [Pem.certificates] at h
  generalize Pem.certificateResults bundle = results at h
  induction results generalizing certificates with
  | nil =>
      obtain rfl := Except.ok.inj h
      rfl
  | cons result others ih =>
      rw [List.mapM_cons, bind_eq_ok_iff] at h
      obtain ⟨certificate, hfirst, h⟩ := h
      obtain ⟨rest, hothers, h⟩ := bind_eq_ok_iff.mp h
      obtain rfl := Except.ok.inj h
      rw [List.map_cons, ← ih hothers]
      exact congrArg (· :: others) hfirst

namespace Certificate

/-- A bundle is taken exactly if each of its certificates is that of an authority. -/
theorem lookAtBundle_eq_ok_iff {certificates : List (List UInt8)} :
    lookAtBundle (certificates.map .ok) = .ok () ↔
      ∀ certificate ∈ certificates, lookAtAuthority certificate = .ok () := by
  induction certificates with
  | nil => simp [lookAtBundle]
  | cons certificate others ih =>
      rw [List.map_cons, lookAtBundle, List.forall_mem_cons]
      cases lookAtAuthority certificate with
      | error refusal => simp
      | ok u => simpa using ih

end Certificate

/-- With TLS, every certificate of the bundle is that of an authority. -/
def AgentTls.HasAuthorities (t : AgentTls) : Prop :=
  t.enabled = true → ∀ certificates, Pem.certificates t.ca = .ok certificates →
    ∀ certificate ∈ certificates, Certificate.lookAtAuthority certificate = .ok ()

theorem AgentTls.check_eq_ok_iff {t : AgentTls} {certificates : List (List UInt8)}
    (htls : t.enabled = true) (h : Pem.certificates t.ca = .ok certificates)
    (hne : certificates ≠ []) :
    t.check = .ok () ↔
      ∀ certificate ∈ certificates, Certificate.lookAtAuthority certificate = .ok () := by
  rw [← Certificate.lookAtBundle_eq_ok_iff, AgentTls.check, if_pos htls,
    Pem.results_of_certificates h]
  cases hlook : Certificate.lookAtBundle (certificates.map .ok) with
  | error e => simp [hlook]
  | ok u => simp [hlook, hne]

/-! ## Listening -/

/-- A machine on which one can listen at addresses one after the other. -/
structure Interfaces.CanBind (n : Interfaces) (addresses : List SocketAddress) : Prop where
  own : ∀ a ∈ addresses, n.isOwn a = true
  free : ∀ a ∈ addresses, a ∉ n.inUse
  nodup : addresses.Nodup

theorem Interfaces.bind_eq_ok_iff {n after : Interfaces} {a : SocketAddress} :
    n.bind a = .ok after ↔
      n.isOwn a = true ∧ a ∉ n.inUse ∧ after = { n with inUse := a :: n.inUse } := by
  rw [Interfaces.bind]
  by_cases hown : n.isOwn a = true
  · by_cases hused : a ∈ n.inUse
    · simp [hown, hused]
    · simp [hown, hused, eq_comm]
  · simp [hown]

/-- Listening at the first address leaves a machine for the others. -/
theorem Interfaces.canBind_cons_iff {n : Interfaces} {a : SocketAddress}
    {others : List SocketAddress} :
    n.CanBind (a :: others) ↔ ∃ after, n.bind a = .ok after ∧ after.CanBind others := by
  constructor
  · intro h
    obtain ⟨hown, hothers⟩ := List.forall_mem_cons.mp h.own
    obtain ⟨hfree, hfreeOthers⟩ := List.forall_mem_cons.mp h.free
    obtain ⟨hnew, hnodup⟩ := List.nodup_cons.mp h.nodup
    refine ⟨_, Interfaces.bind_eq_ok_iff.mpr ⟨hown, hfree, rfl⟩, hothers, ?_, hnodup⟩
    intro b hb hused
    rcases List.mem_cons.mp hused with rfl | hold
    · exact hnew hb
    · exact hfreeOthers b hb hold
  · rintro ⟨after, hbind, h⟩
    obtain ⟨hown, hfree, rfl⟩ := Interfaces.bind_eq_ok_iff.mp hbind
    refine ⟨List.forall_mem_cons.mpr ⟨hown, h.own⟩, List.forall_mem_cons.mpr ⟨hfree, ?_⟩, ?_⟩
    · exact fun b hb hused => h.free b hb (List.mem_cons_of_mem a hused)
    · exact List.nodup_cons.mpr ⟨fun hmem => h.free a hmem List.mem_cons_self, h.nodup⟩

namespace Config

variable {c : Config} {n : Interfaces}

/-- Listening on ports succeeds exactly if each is that of an address, and the machine can listen at
all of them. -/
theorem listenAll_succeeds_iff {entries : List (Endpoint × UInt16)} :
    (∃ listening, c.listenAll n entries = .ok listening) ↔
      ∃ addresses, entries.map (fun e => c.listenAddress e.2) = addresses.map .ok ∧
        n.CanBind addresses := by
  -- each endpoint finds the machine as the ones before it have left it
  induction entries generalizing n with
  | nil =>
      refine ⟨fun _ => ⟨[], rfl, by simp, by simp, List.nodup_nil⟩, fun _ => ⟨[], rfl⟩⟩
  | cons e others ih =>
      constructor
      · rintro ⟨listening, h⟩
        obtain ⟨a, haddress, h⟩ := bind_eq_ok_iff.mp h
        obtain ⟨after, hbind, h⟩ := bind_eq_ok_iff.mp h
        obtain ⟨rest, hrest, -⟩ := bind_eq_ok_iff.mp h
        obtain ⟨addresses, haddresses, hcan⟩ := ih.mp ⟨rest, hrest⟩
        refine ⟨a :: addresses, ?_, Interfaces.canBind_cons_iff.mpr ⟨after, hbind, hcan⟩⟩
        rw [List.map_cons, List.map_cons, haddress, haddresses]
      · rintro ⟨addresses, haddresses, hcan⟩
        cases addresses with
        | nil => cases haddresses
        | cons a addresses =>
            obtain ⟨haddress, hothers⟩ := List.cons.inj haddresses
            obtain ⟨after, hbind, hafter⟩ := Interfaces.canBind_cons_iff.mp hcan
            obtain ⟨rest, hrest⟩ := ih.mpr ⟨addresses, hothers, hafter⟩
            refine ⟨(e.1, a) :: rest, bind_eq_ok_iff.mpr ⟨a, haddress, ?_⟩⟩
            exact bind_eq_ok_iff.mpr ⟨after, hbind, bind_eq_ok_iff.mpr ⟨rest, hrest, rfl⟩⟩

/-- The bind address is one that a port makes a socket address. -/
def CanListen (c : Config) : Prop :=
  (∃ ip, Ipv4.parse? c.bindAddress = some ip) ∨
  ∃ address zone ip scope, c.bindAddress = "[" ++ address ++ zone ++ "]" ∧
    Ipv6.parse? address = some ip ∧ Ipv6.scope? zone = some scope

theorem listenAddress_eq_ok_iff {port : UInt16} {a : SocketAddress} :
    c.listenAddress port = .ok a ↔
      SocketAddress.parse? (c.bindAddress ++ ":" ++ toString port.toNat) = some a := by
  rw [listenAddress]
  split
  · rename_i address hparse
    rw [hparse, Except.ok.injEq, Option.some.injEq]
  · rename_i hparse
    rw [hparse]
    exact ⟨nofun, nofun⟩

/-- Whether a port makes an address does not depend on the port. -/
theorem exists_listenAddress_iff (c : Config) (port : UInt16) :
    (∃ a, c.listenAddress port = .ok a) ↔ c.CanListen := by
  simp only [listenAddress_eq_ok_iff, SocketAddress.parse_eq_some_iff]
  constructor
  · rintro ⟨a, ⟨ip, hip, -⟩ | ⟨address, zone, ip, scope, hhost, hip, hscope, -⟩⟩
    · exact .inl ⟨ip, hip⟩
    · exact .inr ⟨address, zone, ip, scope, hhost, hip, hscope⟩
  · rintro (⟨ip, hip⟩ | ⟨address, zone, ip, scope, hhost, hip, hscope⟩)
    · exact ⟨.v4 ip port, .inl ⟨ip, hip, rfl⟩⟩
    · exact ⟨.v6 ip scope port, .inr ⟨address, zone, ip, scope, hhost, hip, hscope, rfl⟩⟩

theorem port_of_listenAddress {port : UInt16} {a : SocketAddress}
    (h : c.listenAddress port = .ok a) : a.port = port := by
  rw [listenAddress_eq_ok_iff, SocketAddress.parse_eq_some_iff] at h
  obtain ⟨ip, -, rfl⟩ | ⟨address, zone, ip, scope, -, -, -, rfl⟩ := h
  · rfl
  · rfl

/-- The addresses on two ports differ if there are any. -/
theorem listenAddress_injective (h : c.CanListen) : Function.Injective c.listenAddress := by
  intro p q hpq
  obtain ⟨a, ha⟩ := (exists_listenAddress_iff c p).mpr h
  rw [← port_of_listenAddress ha, port_of_listenAddress (hpq ▸ ha)]

/-- Neither the port of the API nor that of the health is a port of the proxy. -/
def ApiApart (c : Config) : Prop :=
  ∀ port, port = c.api.port ∨ c.healthPort = some port →
    port ≠ c.proxy.port ∧ c.proxy.inactivePort ≠ some port

/-- The ports of the proxy. -/
def proxyPorts (c : Config) : List UInt16 := c.proxy.port :: c.proxy.inactivePort.toList

/-- The ports of the API and of the health. -/
def apiPorts (c : Config) : List UInt16 :=
  c.api.port :: (c.healthPort.filter (· ≠ c.api.port)).toList

theorem map_endpoints (c : Config) : c.endpoints.map Prod.snd = c.proxyPorts ++ c.apiPorts := by
  rw [endpoints, proxyPorts, apiPorts]
  cases c.proxy.inactivePort with
  | none => cases c.healthPort.filter (· ≠ c.api.port) <;> rfl
  | some inactive => cases c.healthPort.filter (· ≠ c.api.port) <;> rfl

theorem mem_proxyPorts {port : UInt16} :
    port ∈ c.proxyPorts ↔ port = c.proxy.port ∨ c.proxy.inactivePort = some port := by
  rw [proxyPorts, List.mem_cons, Option.mem_toList]

theorem mem_apiPorts {port : UInt16} :
    port ∈ c.apiPorts ↔ port = c.api.port ∨ c.healthPort = some port := by
  rw [apiPorts, List.mem_cons, Option.mem_toList, Option.filter_eq_some_iff,
    decide_eq_true_eq]
  by_cases hport : port = c.api.port
  · simp [hport]
  · simp [hport]

theorem apiPorts_nodup (c : Config) : c.apiPorts.Nodup := by
  refine List.nodup_cons.mpr ⟨?_, ?_⟩
  · rw [Option.mem_toList, Option.filter_eq_some_iff]
    simp
  · cases c.healthPort.filter (· ≠ c.api.port) with
    | none => exact List.nodup_nil
    | some port => exact List.nodup_singleton port

theorem proxyPorts_nodup (h : c.validate = .ok ()) : c.proxyPorts.Nodup := by
  have hinactive := inactive_port_ne h
  rw [proxyPorts]
  cases hport : c.proxy.inactivePort with
  | none => exact List.nodup_singleton c.proxy.port
  | some port => simpa using (hinactive port hport).symm

/-- Of a valid configuration, only a port of the API can meet one of the proxy. -/
theorem ports_nodup_iff (h : c.validate = .ok ()) :
    (c.endpoints.map Prod.snd).Nodup ↔ c.ApiApart := by
  rw [map_endpoints, List.nodup_append]
  constructor
  · rintro ⟨-, -, hapart⟩ port hport
    have hne : ∀ p ∈ c.proxyPorts, p ≠ port := fun p hp => hapart p hp port (mem_apiPorts.mpr hport)
    refine ⟨fun heq => ?_, fun heq => ?_⟩
    · exact hne port (mem_proxyPorts.mpr (.inl heq)) rfl
    · exact hne port (mem_proxyPorts.mpr (.inr heq)) rfl
  · intro hapart
    refine ⟨proxyPorts_nodup h, apiPorts_nodup c, ?_⟩
    rintro p hp _ hq rfl
    obtain ⟨hactive, hinactive⟩ := hapart p (mem_apiPorts.mp hq)
    exact (mem_proxyPorts.mp hp).elim hactive hinactive

/-- No address of a machine that the service wants is missing or taken. -/
def Unhindered (c : Config) (n : Interfaces) : Prop :=
  ∀ e ∈ c.endpoints, ∀ a, c.listenAddress e.2 = .ok a → n.isOwn a = true ∧ a ∉ n.inUse

/-- A machine that has every address, with nobody listening. -/
def idleMachine : Interfaces := ⟨fun _ => true, []⟩

theorem unhindered_idle (c : Config) : c.Unhindered idleMachine :=
  fun _ _ _ _ => ⟨rfl, List.not_mem_nil⟩

/-- Every port makes an address exactly if the bind address is one. -/
theorem endpoints_listen_iff (c : Config) :
    (∀ e ∈ c.endpoints, ∃ a, c.listenAddress e.2 = .ok a) ↔ c.CanListen := by
  constructor
  · intro h
    have hactive : (Endpoint.activeProxy, c.proxy.port) ∈ c.endpoints := by simp [endpoints]
    exact (exists_listenAddress_iff c c.proxy.port).mp (h (.activeProxy, c.proxy.port) hactive)
  · exact fun h e _ => (exists_listenAddress_iff c e.2).mpr h

theorem exists_addresses (h : c.CanListen) (entries : List (Endpoint × UInt16)) :
    ∃ addresses : List SocketAddress,
      entries.map (fun e => c.listenAddress e.2) = addresses.map .ok := by
  induction entries with
  | nil => exact ⟨[], rfl⟩
  | cons e others ih =>
      obtain ⟨addresses, haddresses⟩ := ih
      obtain ⟨a, ha⟩ := (exists_listenAddress_iff c e.2).mpr h
      exact ⟨a :: addresses, by rw [List.map_cons, List.map_cons, ha, haddresses]⟩

theorem addresses_nodup_iff (h : c.validate = .ok ()) (hlisten : c.CanListen) :
    (c.endpoints.map fun e => c.listenAddress e.2).Nodup ↔ c.ApiApart := by
  rw [← ports_nodup_iff h, ← List.nodup_map_iff (listenAddress_injective hlisten), List.map_map]
  rfl

/-- On a machine that does not hinder it, everything can be listened at exactly if the bind address
is one and the ports differ. -/
theorem listens_iff (h : c.validate = .ok ()) (hn : c.Unhindered n) :
    (∃ listening, c.listenAll n c.endpoints = .ok listening) ↔ c.CanListen ∧ c.ApiApart := by
  rw [listenAll_succeeds_iff]
  constructor
  · rintro ⟨addresses, haddresses, hcan⟩
    have hlisten : c.CanListen := by
      refine (endpoints_listen_iff c).mp fun e he => ?_
      have hmem : c.listenAddress e.2 ∈ addresses.map .ok := by
        rw [← haddresses]
        exact List.mem_map_of_mem he
      obtain ⟨a, -, ha⟩ := List.mem_map.mp hmem
      exact ⟨a, ha.symm⟩
    refine ⟨hlisten, (addresses_nodup_iff h hlisten).mp ?_⟩
    rw [haddresses]
    exact hcan.nodup.map fun _ _ => Except.ok.inj
  · rintro ⟨hlisten, hapart⟩
    obtain ⟨addresses, haddresses⟩ := exists_addresses hlisten c.endpoints
    have hunhindered : ∀ a ∈ addresses, n.isOwn a = true ∧ a ∉ n.inUse := by
      intro a ha
      have hmem : .ok a ∈ c.endpoints.map fun e => c.listenAddress e.2 := by
        rw [haddresses]
        exact List.mem_map_of_mem ha
      obtain ⟨e, he, hea⟩ := List.mem_map.mp hmem
      exact hn e he a hea
    refine ⟨addresses, haddresses, fun a ha => (hunhindered a ha).1,
      fun a ha => (hunhindered a ha).2, ?_⟩
    exact List.Nodup.of_map Except.ok (haddresses ▸ (addresses_nodup_iff h hlisten).mpr hapart)

/-- The authorities of a valid configuration are read exactly if each certificate of the bundle is
that of one. -/
theorem check_eq_ok_iff_authorities (h : c.validate = .ok ()) :
    c.agentTls.check = .ok () ↔ c.agentTls.HasAuthorities := by
  by_cases htls : c.agentTls.enabled = true
  · obtain ⟨certificates, hne, hcertificates⟩ := exists_certificates h htls
    rw [AgentTls.check_eq_ok_iff htls hcertificates hne, AgentTls.HasAuthorities]
    constructor
    · intro hall _ others hothers
      obtain rfl := Except.ok.inj (hcertificates.symm.trans hothers)
      exact hall
    · exact fun hall => hall htls certificates hcertificates
  · simp [AgentTls.check, AgentTls.HasAuthorities, htls]

/-- For a valid configuration, reading the authorities, making the addresses and keeping them apart
are three conditions of the configuration, and on a machine that does not hinder it the service
starts exactly if it fulfils them. -/
theorem prepare_succeeds_iff (h : c.validate = .ok ()) :
    (c.agentTls.check = .ok () ↔ c.agentTls.HasAuthorities) ∧
    ((∀ e ∈ c.endpoints, ∃ a, c.listenAddress e.2 = .ok a) ↔ c.CanListen) ∧
    (c.CanListen → ((c.endpoints.map fun e => c.listenAddress e.2).Nodup ↔ c.ApiApart)) ∧
    ∀ n : Interfaces, c.Unhindered n →
      ((∃ listening, c.prepare n = .ok listening) ↔
        c.agentTls.HasAuthorities ∧ c.CanListen ∧ c.ApiApart) := by
  have hcheck := check_eq_ok_iff_authorities h
  refine ⟨hcheck, endpoints_listen_iff c, addresses_nodup_iff h, fun n hn => ?_⟩
  rw [← hcheck, ← listens_iff h hn]
  constructor
  · rintro ⟨listening, hprepare⟩
    obtain ⟨u, htls, hlisten⟩ := bind_eq_ok_iff.mp hprepare
    exact ⟨htls, listening, hlisten⟩
  · rintro ⟨htls, listening, hlisten⟩
    exact ⟨listening, bind_eq_ok_iff.mpr ⟨(), htls, hlisten⟩⟩

theorem prepare_succeeds_of_oneNode :
    oneNode.validate = .ok () ∧ ∃ listening, oneNode.prepare idleMachine = .ok listening := by
  have hvalid : oneNode.validate = .ok () := (validate_eq_ok_iff oneNode).mpr (by decide +kernel)
  have hlisten : oneNode.CanListen := .inl ⟨⟨0, 0, 0, 0⟩, by decide +kernel⟩
  have hapart : oneNode.ApiApart := by
    rintro port (rfl | hhealth)
    · decide +kernel
    · cases hhealth
  obtain ⟨-, -, -, hstart⟩ := prepare_succeeds_iff hvalid
  exact ⟨hvalid, (hstart idleMachine (unhindered_idle oneNode)).mpr ⟨nofun, hlisten, hapart⟩⟩

/-- Valid configurations that do not start where nothing hinders them: the bundle holds three zero
bytes, an IPv6 address has no brackets, and the API has the port of the proxy. -/
theorem prepare_fails_of_valid :
    let zeros : Config :=
      { oneNode with
        agentTls.enabled := true
        agentTls.serverName := "agent"
        agentTls.ca := "-----BEGIN CERTIFICATE-----\nAAAA\n-----END CERTIFICATE-----\n" }
    let bare : Config := { oneNode with bindAddress := "::1" }
    let shared : Config := { oneNode with api.port := 3306 }
    (zeros.validate = .ok () ∧ zeros.prepare idleMachine =
      .error (.tls "unusable CA certificate: invalid peer certificate: BadEncoding")) ∧
    (bare.validate = .ok () ∧ bare.prepare idleMachine =
      .error (.addressParse "invalid socket address syntax")) ∧
    (shared.validate = .ok () ∧ shared.prepare idleMachine =
      .error (.inputOutput "Address already in use (os error 98)")) := by
  refine ⟨⟨(validate_eq_ok_iff _).mpr ?_, ?_⟩, ⟨(validate_eq_ok_iff _).mpr ?_, ?_⟩,
    ⟨(validate_eq_ok_iff _).mpr ?_, ?_⟩⟩
  · decide +kernel
  · decide +kernel
  · decide +kernel
  · decide +kernel
  · decide +kernel
  · decide +kernel

end Config

end GaleraProxy
