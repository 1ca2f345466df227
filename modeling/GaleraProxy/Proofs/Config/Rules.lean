import GaleraProxy.Proofs.Config.Checking
import Mathlib.Data.Finset.Card

/-!
# The rules that a configuration breaks

A `Config.Rule` is a rule on the settings of a configuration or on a backend of it, and
`Config.Keeps` says what it asks for. `violations_of_brokenRules` says that the violations that are
found are those of the rules that are broken, one for each and in the order of the rules, although
the names that other backends have are collected on the way. `validate_reports_broken_rules` says
the same of what is reported.
-/

namespace GaleraProxy

/-! ## The rules -/

/-- What is asked of every backend. -/
inductive BackendConfig.Rule where
  | named
  | unique
  | host
  | port
  | statusPort
  deriving DecidableEq, Repr

/-- What is asked of a configuration. Backends are told apart by their positions. -/
inductive Config.Rule where
  | activePort
  | inactivePort
  | portsDiffer
  | timeout
  | someBackend
  | backend (position : Nat) (rule : BackendConfig.Rule)
  | apiPort
  | username
  | password
  | serverName
  | authorities
  | healthPort
  | statusInterval
  deriving DecidableEq, Repr

/-- A backend that comes after others keeps a rule. -/
def BackendConfig.Keeps (b : BackendConfig) (earlier : List BackendConfig) :
    BackendConfig.Rule → Prop
  | .named => b.name ≠ ""
  | .unique => b.name ≠ "" → ∀ other ∈ earlier, other.name ≠ b.name
  | .host => Host.validate b.host = .ok ()
  | .port => b.port ≠ 0
  | .statusPort => b.statusPort ≠ 0

/-- A configuration keeps a rule. -/
def Config.Keeps (c : Config) : Config.Rule → Prop
  | .activePort => c.proxy.port ≠ 0
  | .inactivePort => c.proxy.inactivePort ≠ some 0
  | .portsDiffer => ∀ port ∈ c.proxy.inactivePort, port ≠ 0 → port ≠ c.proxy.port
  | .timeout => c.proxy.healthcheckTimeoutMillis ≠ 0
  | .someBackend => c.proxy.backends ≠ []
  | .backend i rule => ∀ b ∈ c.proxy.backends[i]?, b.Keeps (c.proxy.backends.take i) rule
  | .apiPort => c.api.port ≠ 0
  | .username => c.api.username ≠ ""
  | .password => c.api.password ≠ ""
  | .serverName => c.agentTls.enabled = true → c.agentTls.serverName ≠ ""
  | .authorities => c.agentTls.enabled = true → ∃ count, Pem.validate c.agentTls.ca = .ok count
  | .healthPort => c.healthPort ≠ some 0
  | .statusInterval => c.statusLogIntervalSecs ≠ 0

instance (b : BackendConfig) (earlier : List BackendConfig) :
    DecidablePred (b.Keeps earlier) := fun rule =>
  match rule with
  | .named => inferInstanceAs (Decidable (b.name ≠ ""))
  | .unique => inferInstanceAs (Decidable (b.name ≠ "" → ∀ other ∈ earlier, other.name ≠ b.name))
  | .host => inferInstanceAs (Decidable (Host.validate b.host = .ok ()))
  | .port => inferInstanceAs (Decidable (b.port ≠ 0))
  | .statusPort => inferInstanceAs (Decidable (b.statusPort ≠ 0))

instance (c : Config) : DecidablePred c.Keeps := fun rule =>
  match rule with
  | .activePort => inferInstanceAs (Decidable (c.proxy.port ≠ 0))
  | .inactivePort => inferInstanceAs (Decidable (c.proxy.inactivePort ≠ some 0))
  -- The port is looked up, where the search for an instance may come to try all ports there are.
  | .portsDiffer =>
      show Decidable (∀ port ∈ c.proxy.inactivePort, port ≠ 0 → port ≠ c.proxy.port) from
        Option.decidableForallMem c.proxy.inactivePort
  | .timeout => inferInstanceAs (Decidable (c.proxy.healthcheckTimeoutMillis ≠ 0))
  | .someBackend => inferInstanceAs (Decidable (c.proxy.backends ≠ []))
  | .backend i rule => inferInstanceAs
      (Decidable (∀ b ∈ c.proxy.backends[i]?, b.Keeps (c.proxy.backends.take i) rule))
  | .apiPort => inferInstanceAs (Decidable (c.api.port ≠ 0))
  | .username => inferInstanceAs (Decidable (c.api.username ≠ ""))
  | .password => inferInstanceAs (Decidable (c.api.password ≠ ""))
  | .serverName => inferInstanceAs
      (Decidable (c.agentTls.enabled = true → c.agentTls.serverName ≠ ""))
  | .authorities =>
      let accepted := Pem.validate c.agentTls.ca
      have hiff : accepted.toOption.isSome = true ↔ ∃ count, accepted = .ok count := by
        cases accepted with
        | error e => simp [Except.toOption]
        | ok count => simp [Except.toOption]
      decidable_of_iff (c.agentTls.enabled = true → accepted.toOption.isSome = true)
        (imp_congr_right fun _ => hiff)
  | .healthPort => inferInstanceAs (Decidable (c.healthPort ≠ some 0))
  | .statusInterval => inferInstanceAs (Decidable (c.statusLogIntervalSecs ≠ 0))

/-! ## The order of the rules -/

/-- The place of a rule among those of a backend. -/
def BackendConfig.Rule.place : BackendConfig.Rule → Nat
  | .named => 0
  | .unique => 1
  | .host => 2
  | .port => 3
  | .statusPort => 4

/-- The place of a rule: the proxy comes first, then the backends as they are configured, the API,
TLS, and the settings outside any section. -/
def Config.Rule.place : Config.Rule → List Nat
  | .activePort => [0, 0]
  | .inactivePort => [0, 1]
  | .portsDiffer => [0, 2]
  | .timeout => [0, 3]
  | .someBackend => [0, 4]
  | .backend i rule => [1, i, rule.place]
  | .apiPort => [2, 0]
  | .username => [2, 1]
  | .password => [2, 2]
  | .serverName => [3, 0]
  | .authorities => [3, 1]
  | .healthPort => [4, 0]
  | .statusInterval => [4, 1]

/-- A rule comes before another one. -/
def Config.Rule.Precedes (first second : Config.Rule) : Prop := first.place < second.place

instance (first second : Config.Rule) : Decidable (first.Precedes second) :=
  inferInstanceAs (Decidable (first.place < second.place))

/-- The rules of a backend in their order. -/
def BackendConfig.Rule.all : List BackendConfig.Rule := [.named, .unique, .host, .port, .statusPort]

/-- The rules of the backend at a position. -/
def Config.Rule.ofBackend (position : Nat) : List Config.Rule :=
  BackendConfig.Rule.all.map (Config.Rule.backend position)

/-- The rules of some backends in a row, from a position on. -/
def Config.Rule.ofBackends (position count : Nat) : List Config.Rule :=
  (List.range' position count).flatMap Config.Rule.ofBackend

/-- The rules of a configuration with so many backends, in their order. -/
def Config.Rule.all (backends : Nat) : List Config.Rule :=
  [.activePort, .inactivePort, .portsDiffer, .timeout, .someBackend]
    ++ Config.Rule.ofBackends 0 backends
    ++ [.apiPort, .username, .password]
    ++ [.serverName, .authorities]
    ++ [.healthPort, .statusInterval]

theorem BackendConfig.Rule.mem_all (rule : BackendConfig.Rule) : rule ∈ BackendConfig.Rule.all := by
  cases rule <;> decide

namespace Config.Rule

theorem mem_ofBackend_iff {rule : Rule} {i : Nat} :
    rule ∈ ofBackend i ↔ ∃ r, rule = .backend i r := by
  rw [ofBackend, List.mem_map]
  constructor
  · rintro ⟨r, -, rfl⟩
    exact ⟨r, rfl⟩
  · rintro ⟨r, rfl⟩
    exact ⟨r, r.mem_all, rfl⟩

theorem mem_ofBackends_iff {rule : Rule} {count : Nat} :
    rule ∈ ofBackends 0 count ↔ ∃ i < count, ∃ r, rule = .backend i r := by
  simp [ofBackends, mem_ofBackend_iff, List.mem_range']

/-- The rules of the backends are in their order. -/
theorem pairwise_ofBackends (count : Nat) : (ofBackends 0 count).Pairwise Precedes := by
  rw [ofBackends, List.pairwise_flatMap]
  constructor
  · intro i _
    rw [ofBackend, List.pairwise_map]
    simp [BackendConfig.Rule.all, Precedes, place, BackendConfig.Rule.place, List.cons_lt_cons_iff]
  · refine List.Pairwise.imp ?_ List.pairwise_lt_range'
    intro i j hlt first hfirst second hsecond
    obtain ⟨r, rfl⟩ := mem_ofBackend_iff.mp hfirst
    obtain ⟨r', rfl⟩ := mem_ofBackend_iff.mp hsecond
    simp [Precedes, place, List.cons_lt_cons_iff, hlt]

/-- The rules of an earlier section come first. -/
theorem precedes_of_section_lt {first second : Rule}
    (h : first.place.headD 0 < second.place.headD 0) : first.Precedes second := by
  rw [Precedes]
  cases hfirst : first.place with
  | nil =>
      cases hsecond : second.place with
      | nil =>
          rw [hfirst, hsecond] at h
          exact absurd h (Nat.lt_irrefl _)
      | cons n others => exact List.Lex.nil
  | cons m rest =>
      cases hsecond : second.place with
      | nil =>
          rw [hsecond] at h
          exact absurd h (Nat.not_lt_zero _)
      | cons n others =>
          rw [hfirst, hsecond] at h
          exact List.Lex.rel h

/-- All rules are in their order. -/
theorem pairwise_all (backends : Nat) : (all backends).Pairwise Precedes := by
  have hproxy : List.Pairwise Precedes
      [activePort, inactivePort, portsDiffer, timeout, someBackend] := by decide
  have hothers : List.Pairwise Precedes
      [apiPort, username, password, serverName, authorities, healthPort, statusInterval] := by
    decide
  have hfirst : ∀ first ∈ [activePort, inactivePort, portsDiffer, timeout, someBackend],
      first.place.headD 0 = 0 := by decide
  have hlast : ∀ last ∈
      [apiPort, username, password, serverName, authorities, healthPort, statusInterval],
      1 < last.place.headD 0 := by decide
  have hbackends : ∀ rule ∈ ofBackends 0 backends, rule.place.headD 0 = 1 := by
    intro rule hrule
    obtain ⟨i, -, r, rfl⟩ := mem_ofBackends_iff.mp hrule
    rfl
  simp only [all, List.append_assoc, List.cons_append, List.nil_append]
  refine List.pairwise_append.mpr ⟨hproxy, List.pairwise_append.mpr
    ⟨pairwise_ofBackends backends, hothers, ?_⟩, ?_⟩
  · intro rule hrule last hmem
    have hlt := hlast last hmem
    exact precedes_of_section_lt (by rw [hbackends rule hrule]; exact hlt)
  · intro first hmem rule hrule
    refine precedes_of_section_lt ?_
    rw [hfirst first hmem]
    rcases List.mem_append.mp hrule with hbackend | hother
    · rw [hbackends rule hbackend]
      exact Nat.zero_lt_one
    · exact Nat.lt_of_succ_lt (hlast rule hother)

end Config.Rule

/-! ## What is wrong where a rule is broken -/

/-- What is wrong with the backend at a position where it breaks a rule. -/
def BackendConfig.violation (b : BackendConfig) (position : Nat) : BackendConfig.Rule → Violation
  | .named => .emptyBackendName (b.sectionName position)
  | .unique => .duplicateBackendName (b.sectionName position)
  | .host => .badHost (b.sectionName position) (if b.host = "" then .empty else .malformed b.host)
  | .port => .zeroPort (.backend (b.sectionName position))
  | .statusPort => .zeroPort (.status (b.sectionName position))

/-- What is wrong with a configuration that breaks a rule. -/
def Config.violation? (c : Config) : Config.Rule → Option Violation
  | .activePort => some (.zeroPort .proxy)
  | .inactivePort => some (.zeroPort .inactive)
  | .portsDiffer => some (.inactivePortClash c.proxy.port)
  | .timeout => some .zeroHealthcheckTimeout
  | .someBackend => some .noBackends
  | .backend i rule => c.proxy.backends[i]?.map fun b => b.violation i rule
  | .apiPort => some (.zeroPort .api)
  | .username => some .emptyUsername
  | .password => some .emptyPassword
  | .serverName => some .missingServerName
  | .authorities =>
      if c.agentTls.ca = "" then some .missingCa
      else
        match Pem.validate c.agentTls.ca with
        | .ok _ => none
        | .error reason => some (.badCa reason)
  | .healthPort => some (.zeroPort .health)
  | .statusInterval => some .zeroStatusLogInterval

/-- The section in which a rule is broken: a backend's is its name, or its position if it has none.
-/
def Config.sectionOf (c : Config) : Config.Rule → String
  | .activePort | .inactivePort | .portsDiffer | .timeout | .someBackend => "proxy"
  | .backend i _ =>
      match c.proxy.backends[i]? with
      | some b => if b.name = "" then "backends[" ++ toString i ++ "]" else b.name
      | none => ""
  | .apiPort | .username | .password => "api"
  | .serverName | .authorities => "galera_agent_tls"
  | .healthPort | .statusInterval => "(root)"

/-- The field of a backend that a rule is about. -/
def BackendConfig.Rule.field : BackendConfig.Rule → String
  | .named | .unique => "name"
  | .host => "host"
  | .port => "port"
  | .statusPort => "status_port"

/-- The field that a rule is about. -/
def Config.Rule.field : Config.Rule → String
  | .activePort | .apiPort => "port"
  | .inactivePort | .portsDiffer => "inactive_mysql_port"
  | .timeout => "healthcheck_timeout_millis"
  | .someBackend => "backends"
  | .backend _ rule => rule.field
  | .username => "username"
  | .password => "password"
  | .serverName => "server_name"
  | .authorities => "ca"
  | .healthPort => "health_port"
  | .statusInterval => "status_log_interval_secs"

/-- What is reported of a configuration that breaks a rule. -/
def Config.reported? (c : Config) (rule : Config.Rule) : Option ValidationError :=
  (c.violation? rule).map Violation.report

namespace Config

variable {c : Config}

/-- What is wrong with a configuration where it breaks rules of a list. -/
def broken (c : Config) (rules : List Rule) : List (Option Violation) :=
  (rules.filter fun rule => ¬ c.Keeps rule).map c.violation?

@[simp] theorem broken_append (front back : List Rule) :
    c.broken (front ++ back) = c.broken front ++ c.broken back := by
  rw [broken, List.filter_append, List.map_append]
  rfl

theorem broken_cons (rule : Rule) (rules : List Rule) :
    c.broken (rule :: rules) = c.broken [rule] ++ c.broken rules :=
  broken_append [rule] rules

theorem broken_of_keeps {rule : Rule} (h : c.Keeps rule) : c.broken [rule] = [] := by
  simp [broken, h]

theorem broken_of_not_keeps {rule : Rule} (h : ¬ c.Keeps rule) :
    c.broken [rule] = [c.violation? rule] := by
  simp [broken, h]

/-- A check finds what is wrong where its rule is broken. -/
theorem when_broken {found : Bool} {rule : Rule} {v : Violation}
    (h : found = true ↔ ¬ c.Keeps rule) (hv : ¬ c.Keeps rule → c.violation? rule = some v) :
    (Violation.when found v).map some = c.broken [rule] := by
  by_cases hkeeps : c.Keeps rule
  · have hfound : found = false := by simpa [hkeeps] using h
    rw [broken_of_keeps hkeeps, Violation.when_eq_nil_iff.mpr hfound]
    rfl
  · rw [broken_of_not_keeps hkeeps, hv hkeeps, h.mpr hkeeps]
    rfl

/-! ## The sections -/

theorem inactiveViolations_broken :
    c.proxy.inactiveViolations.map some = c.broken [.inactivePort, .portsDiffer] := by
  rw [broken_cons, ProxyConfig.inactiveViolations]
  cases hport : c.proxy.inactivePort with
  | none =>
      have hzero : c.Keeps .inactivePort := by simp [Keeps, hport]
      have hdiffer : c.Keeps .portsDiffer := by simp [Keeps, hport]
      rw [broken_of_keeps hzero, broken_of_keeps hdiffer]
      rfl
  | some port =>
      by_cases hzero : port = 0
      · have hbroken : ¬ c.Keeps .inactivePort := by simp [Keeps, hport, hzero]
        have hdiffer : c.Keeps .portsDiffer := by simp [Keeps, hport, hzero]
        rw [broken_of_not_keeps hbroken, broken_of_keeps hdiffer]
        simp [hzero, violation?]
      · have hkeeps : c.Keeps .inactivePort := by simp [Keeps, hport, hzero]
        rw [broken_of_keeps hkeeps]
        by_cases hsame : port = c.proxy.port
        · have hbroken : ¬ c.Keeps .portsDiffer := by
            simp [Keeps, hport, hsame, hsame ▸ hzero]
          rw [broken_of_not_keeps hbroken]
          simp [hsame, hsame ▸ hzero, violation?]
        · have hdiffer : c.Keeps .portsDiffer := by simp [Keeps, hport, hsame]
          rw [broken_of_keeps hdiffer]
          simp [hzero, hsame]

/-- A host is rejected because it is empty or malformed. -/
theorem reason_of_invalid_host {host : String} {reason : Host.Invalid}
    (h : Host.validate host = .error reason) :
    reason = if host = "" then .empty else .malformed host := by
  rw [Host.validate] at h
  by_cases hempty : host = ""
  · simpa [hempty] using h.symm
  · rw [if_neg (by simpa using hempty)] at h
    by_cases hvalid : (Host.isAddress host || (Host.parse? host).isSome) = true
    · simp [hvalid] at h
    · simpa [hempty, hvalid] using h.symm

/-- What is wrong with a backend is found, once the names before it have been collected. -/
theorem backend_broken {earlier rest : List BackendConfig} {b : BackendConfig}
    (hc : c.proxy.backends = earlier ++ b :: rest) :
    (b.violations earlier.length (earlier.map (·.name)).reverse).map some =
      c.broken (Rule.ofBackend earlier.length) := by
  have hb : c.proxy.backends[earlier.length]? = some b := by simp [hc]
  have htake : c.proxy.backends.take earlier.length = earlier := by simp [hc]
  have hviolation : ∀ rule, c.violation? (.backend earlier.length rule) =
      some (b.violation earlier.length rule) := by
    intro rule
    simp [violation?, hb]
  have hkeeps : ∀ rule, c.Keeps (.backend earlier.length rule) ↔ b.Keeps earlier rule := by
    intro rule
    simp [Keeps, hb, htake]
  have hnamed : (Violation.when b.name.isEmpty
      (.emptyBackendName (b.sectionName earlier.length))).map some =
        c.broken [.backend earlier.length .named] :=
    when_broken (by simp [hkeeps, BackendConfig.Keeps]) fun _ => hviolation _
  have hunique : (Violation.when (!b.name.isEmpty && (earlier.map (·.name)).reverse.contains b.name)
      (.duplicateBackendName b.name)).map some = c.broken [.backend earlier.length .unique] := by
    refine when_broken (by simp [hkeeps, BackendConfig.Keeps]) fun hbroken => ?_
    rw [hkeeps, BackendConfig.Keeps, Classical.not_imp] at hbroken
    simp [hviolation, BackendConfig.violation, BackendConfig.sectionName, hbroken.1]
  have hport : (Violation.when (b.port == 0)
      (.zeroPort (.backend (b.sectionName earlier.length)))).map some =
        c.broken [.backend earlier.length .port] :=
    when_broken (by simp [hkeeps, BackendConfig.Keeps]) fun _ => hviolation _
  have hstatus : (Violation.when (b.statusPort == 0)
      (.zeroPort (.status (b.sectionName earlier.length)))).map some =
        c.broken [.backend earlier.length .statusPort] :=
    when_broken (by simp [hkeeps, BackendConfig.Keeps]) fun _ => hviolation _
  have hrules : Rule.ofBackend earlier.length = [.backend earlier.length .named]
      ++ [.backend earlier.length .unique] ++ [.backend earlier.length .host]
      ++ [.backend earlier.length .port] ++ [.backend earlier.length .statusPort] := rfl
  rw [hrules]
  simp only [BackendConfig.violations, List.map_append, broken_append]
  rw [hnamed, hunique, hport, hstatus]
  have hhost : c.Keeps (.backend earlier.length .host) ↔ Host.validate b.host = .ok () :=
    hkeeps .host
  cases hvalid : Host.validate b.host with
  | ok _ =>
      rw [broken_of_keeps (hhost.mpr hvalid)]
      rfl
  | error reason =>
      have hbroken : ¬ c.Keeps (.backend earlier.length .host) := by simp [hhost, hvalid]
      rw [broken_of_not_keeps hbroken, hviolation, BackendConfig.violation,
        ← reason_of_invalid_host hvalid]
      rfl

/-- What is wrong with the backends from a position on is found, once the names before it have been
collected. -/
theorem backendViolations_broken {earlier rest : List BackendConfig}
    (hc : c.proxy.backends = earlier ++ rest) :
    (ProxyConfig.backendViolations earlier.length (earlier.map (·.name)).reverse rest).map some =
      c.broken (Rule.ofBackends earlier.length rest.length) := by
  induction rest generalizing earlier with
  | nil => rfl
  | cons b rest ih =>
      have hc' : c.proxy.backends = (earlier ++ [b]) ++ rest := by
        rw [hc, List.append_assoc]
        rfl
      have hrest := ih hc'
      rw [List.length_append, List.map_append, List.reverse_append] at hrest
      rw [ProxyConfig.backendViolations, List.map_append, backend_broken hc, Rule.ofBackends,
        List.length_cons, List.range'_succ, List.flatMap_cons, broken_append]
      exact congrArg _ hrest

theorem proxy_broken : c.proxy.violations.map some =
    c.broken ([.activePort, .inactivePort, .portsDiffer, .timeout, .someBackend]
      ++ Rule.ofBackends 0 c.proxy.backends.length) := by
  have hport : (c.proxy.port == 0) = true ↔ ¬ c.Keeps .activePort := by simp [Keeps]
  have htimeout : (c.proxy.healthcheckTimeoutMillis == 0) = true ↔ ¬ c.Keeps .timeout := by
    simp [Keeps]
  have hnone : c.proxy.backends.isEmpty = true ↔ ¬ c.Keeps .someBackend := by simp [Keeps]
  have hrules : ([.activePort, .inactivePort, .portsDiffer, .timeout, .someBackend] : List Rule) =
      [.activePort] ++ [.inactivePort, .portsDiffer] ++ [.timeout] ++ [.someBackend] := rfl
  rw [hrules]
  simp only [ProxyConfig.violations, List.map_append, broken_append]
  rw [when_broken hport fun _ => rfl, inactiveViolations_broken,
    when_broken htimeout fun _ => rfl, when_broken hnone fun _ => rfl]
  have hbackends : c.proxy.backends = [] ++ c.proxy.backends := rfl
  exact congrArg _ (backendViolations_broken hbackends)

theorem api_broken :
    c.api.violations.map some = c.broken [.apiPort, .username, .password] := by
  have hport : (c.api.port == 0) = true ↔ ¬ c.Keeps .apiPort := by simp [Keeps]
  have husername : c.api.username.isEmpty = true ↔ ¬ c.Keeps .username := by simp [Keeps]
  have hpassword : c.api.password.isEmpty = true ↔ ¬ c.Keeps .password := by simp [Keeps]
  rw [broken_cons, broken_cons .username]
  simp only [ApiConfig.violations, List.map_append]
  rw [when_broken hport fun _ => rfl, when_broken husername fun _ => rfl,
    when_broken hpassword fun _ => rfl, List.append_assoc]

/-- A bundle without a character has no certificate. -/
theorem validate_empty_bundle : Pem.validate "" = .error .noCertificates := by
  decide +kernel

theorem authorities_broken (henabled : c.agentTls.enabled = true) :
    c.agentTls.caViolations.map some = c.broken [.authorities] := by
  have hkeeps : c.Keeps .authorities ↔ ∃ count, Pem.validate c.agentTls.ca = .ok count := by
    simp [Keeps, henabled]
  rw [AgentTls.caViolations]
  by_cases hempty : c.agentTls.ca = ""
  · have hbroken : ¬ c.Keeps .authorities := by simp [hkeeps, hempty, validate_empty_bundle]
    rw [broken_of_not_keeps hbroken]
    simp [violation?, hempty]
  · rw [if_neg (by simpa using hempty)]
    cases hvalid : Pem.validate c.agentTls.ca with
    | ok count =>
        rw [broken_of_keeps (hkeeps.mpr ⟨count, hvalid⟩)]
        rfl
    | error reason =>
        have hbroken : ¬ c.Keeps .authorities := by simp [hkeeps, hvalid]
        rw [broken_of_not_keeps hbroken]
        simp [violation?, hempty, hvalid]

theorem tls_broken : c.agentTls.violations.map some = c.broken [.serverName, .authorities] := by
  rw [AgentTls.violations, broken_cons]
  by_cases henabled : c.agentTls.enabled = true
  · have hname : c.agentTls.serverName.isEmpty = true ↔ ¬ c.Keeps .serverName := by
      simp [Keeps, henabled]
    rw [if_pos henabled, List.map_append, when_broken hname fun _ => rfl,
      authorities_broken henabled]
  · have hname : c.Keeps .serverName := by simp [Keeps, henabled]
    have hauthorities : c.Keeps .authorities := by simp [Keeps, henabled]
    rw [if_neg henabled, broken_of_keeps hname, broken_of_keeps hauthorities]
    rfl

theorem root_broken : c.rootViolations.map some = c.broken [.healthPort, .statusInterval] := by
  have hport : (c.healthPort == some 0) = true ↔ ¬ c.Keeps .healthPort := by simp [Keeps]
  have hinterval : (c.statusLogIntervalSecs == 0) = true ↔ ¬ c.Keeps .statusInterval := by
    simp [Keeps]
  rw [broken_cons, rootViolations, List.map_append, when_broken hport fun _ => rfl,
    when_broken hinterval fun _ => rfl]

/-- The rules that a configuration breaks, in their order. -/
def brokenRules (c : Config) : List Rule :=
  (Rule.all c.proxy.backends.length).filter fun rule => ¬ c.Keeps rule

/-- What is found to be wrong with a configuration are the rules that it breaks. -/
theorem violations_of_brokenRules : c.violations.map some = c.brokenRules.map c.violation? := by
  have hrules : c.brokenRules.map c.violation? = c.broken (Rule.all c.proxy.backends.length) := rfl
  rw [hrules, Rule.all, violations]
  simp only [List.map_append, broken_append]
  rw [proxy_broken, api_broken, tls_broken, root_broken, broken_append]

theorem mem_brokenRules {rule : Rule} : rule ∈ c.brokenRules ↔ ¬ c.Keeps rule := by
  rw [brokenRules, List.mem_filter, decide_eq_true_iff, and_iff_right_iff_imp]
  intro hbroken
  cases rule with
  | backend i r =>
      have hlt : i < c.proxy.backends.length := by
        by_contra hge
        exact hbroken fun b hb => by simp [List.getElem?_eq_none (Nat.le_of_not_lt hge)] at hb
      have hmem : Rule.backend i r ∈ Rule.ofBackends 0 c.proxy.backends.length :=
        Rule.mem_ofBackends_iff.mpr ⟨i, hlt, r, rfl⟩
      simp [Rule.all, hmem]
  | _ => simp [Rule.all]

/-- What is reported of a configuration are the rules that it breaks. -/
theorem errors_of_brokenRules : c.brokenRules.map c.reported? = c.validationErrors.map some := by
  have hentries : c.brokenRules.map c.reported? =
      (c.brokenRules.map c.violation?).map (Option.map Violation.report) := by
    rw [List.map_map]
    rfl
  rw [hentries, ← violations_of_brokenRules, validationErrors, List.map_map, List.map_map]
  rfl

theorem validationErrors_eq_nil_iff : c.validationErrors = [] ↔ c.brokenRules = [] := by
  rw [← List.map_eq_nil_iff (f := some), ← errors_of_brokenRules, List.map_eq_nil_iff]

/-- A configuration is valid if it keeps every rule. -/
theorem validate_eq_ok_iff_keeps : c.validate = .ok () ↔ ∀ rule, c.Keeps rule := by
  rw [validate_eq_ok_iff, validationErrors_eq_nil_iff, List.eq_nil_iff_forall_not_mem]
  simp only [mem_brokenRules, Classical.not_not]

end Config

/-! ## Names that are given twice -/

/-- A report says that a name is not new. -/
def ValidationError.IsDuplicateName (e : ValidationError) : Prop :=
  e.field = "name" ∧ e.message = "duplicate backend name"

instance : DecidablePred ValidationError.IsDuplicateName := fun _ =>
  inferInstanceAs (Decidable (_ ∧ _))

/-- The names that backends have been given. -/
def givenNames (backends : List BackendConfig) : List String :=
  (backends.map (·.name)).filter (· ≠ "")

/-- Whether a name is not new. -/
def Violation.isDuplicateName : Violation → Bool
  | .duplicateBackendName _ => true
  | _ => false

theorem Violation.report_isDuplicateName (v : Violation) :
    v.report.IsDuplicateName ↔ v.isDuplicateName = true := by
  cases v with
  | zeroPort setting =>
      cases setting <;> simp [report, PortSetting.place, ValidationError.IsDuplicateName,
        isDuplicateName]
  | _ => simp [report, ValidationError.IsDuplicateName, isDuplicateName]

theorem Violation.countP_when (found : Bool) (v : Violation) :
    (Violation.when found v).countP isDuplicateName =
      if found && v.isDuplicateName then 1 else 0 := by
  cases found with
  | false => rfl
  | true => simp [when, List.countP_cons]

/-- A backend is reported once if its name is one that has been collected. -/
theorem BackendConfig.countP_violations (b : BackendConfig) (position : Nat) (seen : List String) :
    (b.violations position seen).countP Violation.isDuplicateName =
      if b.name ≠ "" ∧ b.name ∈ seen then 1 else 0 := by
  rw [BackendConfig.violations]
  cases Host.validate b.host with
  | ok _ => simp [List.countP_append, Violation.countP_when, Violation.isDuplicateName]
  | error reason => simp [List.countP_append, Violation.countP_when, Violation.isDuplicateName]

/-- Of the names that backends are given, as many are reported as are not new. -/
theorem countP_backendViolations (position : Nat) (seen : List String)
    (backends : List BackendConfig) :
    (ProxyConfig.backendViolations position seen backends).countP Violation.isDuplicateName +
        ((givenNames backends).toFinset \ seen.toFinset).card = (givenNames backends).length := by
  induction backends generalizing position seen with
  | nil => simp [givenNames, ProxyConfig.backendViolations]
  | cons b rest ih =>
      have hrest := ih (position + 1) (b.name :: seen)
      rw [List.toFinset_cons] at hrest
      rw [ProxyConfig.backendViolations, List.countP_append, b.countP_violations]
      by_cases hempty : b.name = ""
      · have hnames : givenNames (b :: rest) = givenNames rest := by simp [givenNames, hempty]
        have hnot : b.name ∉ (givenNames rest).toFinset := by simp [givenNames, hempty]
        rw [Finset.sdiff_insert_of_notMem hnot] at hrest
        rw [hnames, if_neg fun h => h.1 hempty, Nat.zero_add]
        exact hrest
      · have hnames : givenNames (b :: rest) = b.name :: givenNames rest := by
          simp [givenNames, hempty]
        rw [hnames, List.toFinset_cons, List.length_cons]
        by_cases hseen : b.name ∈ seen
        · have hmem : b.name ∈ seen.toFinset := List.mem_toFinset.mpr hseen
          rw [Finset.insert_eq_of_mem hmem] at hrest
          rw [if_pos ⟨hempty, hseen⟩, Finset.insert_sdiff_of_mem _ hmem]
          omega
        · have hnot : b.name ∉ seen.toFinset := fun h => hseen (List.mem_toFinset.mp h)
          have hnew : insert b.name (givenNames rest).toFinset \ seen.toFinset =
              insert b.name ((givenNames rest).toFinset \ insert b.name seen.toFinset) := by
            ext name
            by_cases hname : name = b.name
            · simp [hname, hseen]
            · simp [hname]
          have hout : b.name ∉ (givenNames rest).toFinset \ insert b.name seen.toFinset := by simp
          rw [if_neg fun h => hseen h.2, hnew, Finset.card_insert_of_notMem hout]
          omega

namespace Config

variable {c : Config}

theorem countP_inactiveViolations :
    c.proxy.inactiveViolations.countP Violation.isDuplicateName = 0 := by
  rw [ProxyConfig.inactiveViolations]
  cases c.proxy.inactivePort with
  | none => rfl
  | some port =>
      by_cases hzero : port = 0
      · simp [hzero, Violation.isDuplicateName]
      · by_cases hsame : port = c.proxy.port
        · simp [hsame, hsame ▸ hzero, Violation.isDuplicateName]
        · simp [hzero, hsame]

theorem countP_tlsViolations :
    c.agentTls.violations.countP Violation.isDuplicateName = 0 := by
  have hca : c.agentTls.caViolations.countP Violation.isDuplicateName = 0 := by
    rw [AgentTls.caViolations]
    by_cases hempty : c.agentTls.ca.isEmpty = true
    · rw [if_pos hempty]
      rfl
    · rw [if_neg hempty]
      cases Pem.validate c.agentTls.ca <;> rfl
  rw [AgentTls.violations]
  by_cases henabled : c.agentTls.enabled = true
  · simp [henabled, List.countP_append, Violation.countP_when, Violation.isDuplicateName, hca]
  · simp [henabled]

/-- There are as many reports of names that are not new as there are given names beyond those that
differ. -/
theorem countP_duplicateNames : c.validationErrors.countP ValidationError.IsDuplicateName =
    (givenNames c.proxy.backends).length - (givenNames c.proxy.backends).toFinset.card := by
  have hreports : c.validationErrors.countP ValidationError.IsDuplicateName =
      c.violations.countP Violation.isDuplicateName := by
    rw [validationErrors, List.countP_map]
    refine List.countP_congr fun v _ => ?_
    simp [Violation.report_isDuplicateName]
  have hbackends : c.violations.countP Violation.isDuplicateName =
      (ProxyConfig.backendViolations 0 [] c.proxy.backends).countP Violation.isDuplicateName := by
    simp [violations, ProxyConfig.violations, ApiConfig.violations, rootViolations,
      List.countP_append, Violation.countP_when, Violation.isDuplicateName,
      countP_inactiveViolations, countP_tlsViolations]
  have hcount := countP_backendViolations 0 [] c.proxy.backends
  rw [List.toFinset_nil, Finset.sdiff_empty] at hcount
  rw [hreports, hbackends]
  omega

end Config

/-! ## What is reported -/

/-- Two lists agree in what is true of every result in the one of an element of the other. -/
theorem map_eq_map_of_map_some {α β γ : Type} {l : List α} {results : List β} {f : α → Option β}
    (h : l.map f = results.map some) {g : α → γ} {k : β → γ}
    (hresult : ∀ a b, f a = some b → k b = g a) : results.map k = l.map g := by
  induction l generalizing results with
  | nil =>
      obtain rfl := List.map_eq_nil_iff.mp h.symm
      rfl
  | cons a rest ih =>
      cases results with
      | nil => cases h
      | cons b others =>
          obtain ⟨ha, hrest⟩ := List.cons.inj h
          rw [List.map_cons, List.map_cons, hresult a b ha, ih hrest]

namespace Config

variable {c : Config}

/-- A configuration that breaks no rule is accepted, and the others are refused with their reports.
-/
theorem validate_eq_ite : c.validate =
    if c.brokenRules = [] then .ok () else .error c.validationErrors := by
  by_cases hnone : c.brokenRules = []
  · rw [if_pos hnone, validate_eq_ok_iff]
    exact validationErrors_eq_nil_iff.mpr hnone
  · rw [if_neg hnone, validate]
    cases herrors : c.validationErrors with
    | nil => exact absurd (validationErrors_eq_nil_iff.mp herrors) hnone
    | cons first others => rfl

/-- A report names the section and the field that its rule is about. -/
theorem place_of_reported {rule : Rule} {e : ValidationError} (h : c.reported? rule = some e) :
    e.sectionName = c.sectionOf rule ∧ e.field = rule.field := by
  obtain ⟨v, hv, rfl⟩ := Option.map_eq_some_iff.mp h
  cases rule with
  | backend i r =>
      obtain ⟨b, hb, rfl⟩ := Option.map_eq_some_iff.mp hv
      have hsection : c.sectionOf (.backend i r) = b.sectionName i := by
        simp [sectionOf, hb, BackendConfig.sectionName]
      rw [hsection]
      cases r <;> exact ⟨rfl, rfl⟩
  | authorities =>
      rw [violation?] at hv
      by_cases hempty : c.agentTls.ca = ""
      · rw [if_pos hempty] at hv
        obtain rfl := Option.some.inj hv
        exact ⟨rfl, rfl⟩
      · rw [if_neg hempty] at hv
        cases hvalid : Pem.validate c.agentTls.ca with
        | ok count => simp [hvalid] at hv
        | error reason =>
            simp only [hvalid, Option.some.injEq] at hv
            subst hv
            exact ⟨rfl, rfl⟩
  | _ =>
      obtain rfl := Option.some.inj hv
      exact ⟨rfl, rfl⟩

/-- The reports name the sections and the fields of the rules that are broken. -/
theorem places_of_brokenRules : c.validationErrors.map (fun e => (e.sectionName, e.field)) =
    c.brokenRules.map fun rule => (c.sectionOf rule, rule.field) := by
  refine map_eq_map_of_map_some errors_of_brokenRules fun rule e he => ?_
  obtain ⟨hsection, hfield⟩ := place_of_reported he
  rw [hsection, hfield]

/-- A configuration is accepted exactly if it keeps every rule. If it does not, every rule that it
breaks is reported once, in the order of the rules, and nothing else is; what is reported of a
backend stands under its name, or under its position if it has none; and there are as many reports
of names that are not new as there are given names beyond those that differ. -/
theorem validate_reports_broken_rules (c : Config) :
    (c.validate = .ok () ↔ ∀ rule, c.Keeps rule) ∧
    ∃ (rules : List Rule) (errors : List ValidationError),
      c.validate = (if rules = [] then .ok () else .error errors) ∧
      rules.Pairwise Rule.Precedes ∧
      (∀ rule, rule ∈ rules ↔ ¬ c.Keeps rule) ∧
      rules.map c.reported? = errors.map some ∧
      errors.map (fun e => (e.sectionName, e.field)) =
        rules.map (fun rule => (c.sectionOf rule, rule.field)) ∧
      errors.countP ValidationError.IsDuplicateName =
        (givenNames c.proxy.backends).length - (givenNames c.proxy.backends).toFinset.card :=
  ⟨validate_eq_ok_iff_keeps, c.brokenRules, c.validationErrors, validate_eq_ite,
    (Rule.pairwise_all _).filter _, fun _ => mem_brokenRules, errors_of_brokenRules,
    places_of_brokenRules, countP_duplicateNames⟩

/-- A backend without a name or a host does not hide what is wrong with the backends after it. -/
example :
    let backends : List BackendConfig :=
      [⟨"", "", 0, 9201, ""⟩, ⟨"db", "", 3306, 9201, ""⟩, ⟨"db", "", 3306, 0, ""⟩]
    brokenRules { oneNode with
      proxy := { oneNode.proxy with backends }, api := ⟨0, "admin", ""⟩ } =
        [.backend 0 .named, .backend 0 .host, .backend 0 .port, .backend 1 .host,
          .backend 2 .unique, .backend 2 .host, .backend 2 .statusPort, .apiPort, .password] := by
  decide +kernel

end Config

end GaleraProxy
