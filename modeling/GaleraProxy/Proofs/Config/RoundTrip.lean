import GaleraProxy.Proofs.Config.Language
import GaleraProxy.Proofs.Document.Spelling
import GaleraProxy.Proofs.Json.Rendering

/-!
# A configuration that is written is read back

A section that is written spells out some of its settings and leaves out the others.
`Config.toDocument_spells` says that what is left out has its default, so that the written form
means the configuration in full. `Config.parse_render` concludes that the text of the written form
is parsed to the configuration that was written.
-/

namespace GaleraProxy

open Document

/-! ## What is written and what is left out -/

/-- A setting that is written out. -/
def Document.Spelling.always (s : Setting) (v full : Json) : Spelling := ⟨s, some v, full⟩

/-- A setting that is left out where it has its default. -/
def Document.Spelling.unless (isDefault : Bool) (s : Setting) (v full : Json) : Spelling :=
  ⟨s, if isDefault then none else some v, full⟩

/-- A port that is left out if there is none. -/
def Document.Spelling.port (key : String) (p : Option UInt16) : Spelling :=
  ⟨.optional key .port .null, p.map Config.portJson, Config.optionalPortJson p⟩

theorem Document.Spelling.right_unless {isDefault : Bool} {s : Setting} {v full : Json}
    (hdefault : isDefault = true → s.default = some full) (h : s.kind.Spells v full) :
    (Spelling.unless isDefault s v full).Right := by
  cases isDefault with
  | true => exact hdefault rfl
  | false => exact h

theorem Document.Spelling.right_port (key : String) (p : Option UInt16) :
    (Spelling.port key p).Right := by
  cases p with
  | none => rfl
  | some p => exact Kind.port_spells p

/-- The settings of a backend, all of which are written out. -/
def BackendConfig.spellings (b : BackendConfig) : List Spelling :=
  [.always (.required "name" .text) (.text b.name) (.text b.name),
   .always (.required "host" .text) (.text b.host) (.text b.host),
   .always (.required "port" .port) (Config.portJson b.port) (Config.portJson b.port),
   .always (.required "status_port" .port) (Config.portJson b.statusPort)
     (Config.portJson b.statusPort),
   .always (.optional "status_endpoint" .text (.text "api/v1/status")) (.text b.statusEndpoint)
     (.text b.statusEndpoint)]

theorem BackendConfig.toDocument_spells (b : BackendConfig) :
    backendKind.Spells b.toDocument b.toDocument := by
  refine Kind.record_spells b.spellings ?_ ?_
  · show ["name", "host", "port", "status_port", "status_endpoint"].Nodup
    decide
  · simp only [BackendConfig.spellings, List.forall_mem_cons]
    exact ⟨Kind.text_spells _, Kind.text_spells _, Kind.port_spells _, Kind.port_spells _,
      Kind.text_spells _, nofun⟩

/-- The settings of the API section, all of which are written out. -/
def ApiConfig.spellings (a : ApiConfig) : List Spelling :=
  [.always (.required "port" .port) (Config.portJson a.port) (Config.portJson a.port),
   .always (.optional "username" .text (.text "")) (.text a.username) (.text a.username),
   .always (.optional "password" .text (.text "")) (.text a.password) (.text a.password)]

theorem ApiConfig.toDocument_spells (a : ApiConfig) :
    apiKind.Spells a.toDocument a.toDocument := by
  refine Kind.record_spells a.spellings ?_ ?_
  · show ["port", "username", "password"].Nodup
    decide
  · simp only [ApiConfig.spellings, List.forall_mem_cons]
    exact ⟨Kind.port_spells _, Kind.text_spells _, Kind.text_spells _, nofun⟩

/-- The settings of the section about TLS. -/
def AgentTls.spellings (t : AgentTls) : List Spelling :=
  [.always (.optional "enabled" .flag (.bool false)) (.bool t.enabled) (.bool t.enabled),
   .unless t.serverName.isEmpty (.optional "server_name" .text (.text "")) (.text t.serverName)
     (.text t.serverName),
   .unless t.ca.isEmpty (.optional "ca" .text (.text "")) (.text t.ca) (.text t.ca)]

theorem AgentTls.toDocument_eq (t : AgentTls) :
    t.toDocument = .object (t.spellings.filterMap Spelling.member?) := by
  unfold AgentTls.toDocument AgentTls.spellings
  cases t.serverName.isEmpty <;> cases t.ca.isEmpty <;> rfl

theorem AgentTls.toDocument_spells (t : AgentTls) :
    tlsKind.Spells t.toDocument t.toFullDocument := by
  rw [AgentTls.toDocument_eq]
  refine Kind.record_spells t.spellings ?_ ?_
  · show ["enabled", "server_name", "ca"].Nodup
    decide
  · have hempty : ∀ s : String, s.isEmpty = true → some (Json.text "") = some (.text s) := by
      intro s hs
      rw [String.isEmpty_iff.1 hs]
    simp only [AgentTls.spellings, List.forall_mem_cons]
    exact ⟨Kind.flag_spells _, Spelling.right_unless (hempty _) (Kind.text_spells _),
      Spelling.right_unless (hempty _) (Kind.text_spells _), nofun⟩

/-- The settings of the proxy section. -/
def ProxyConfig.spellings (p : ProxyConfig) : List Spelling :=
  [.always (.required "port" .port) (Config.portJson p.port) (Config.portJson p.port),
   .port "inactive_mysql_port" p.inactivePort,
   .unless (p.healthcheckTimeoutMillis == Config.defaultHealthcheckTimeout)
     (.optional "healthcheck_timeout_millis" .word (.nat 5000))
     (Config.wordJson p.healthcheckTimeoutMillis) (Config.wordJson p.healthcheckTimeoutMillis),
   .unless (p.shutdownDelaySeconds == 0) (.optional "shutdown_delay_seconds" .word (.nat 0))
     (Config.wordJson p.shutdownDelaySeconds) (Config.wordJson p.shutdownDelaySeconds),
   .always (.required "backends" (.list backendKind))
     (.list (p.backends.map BackendConfig.toDocument))
     (.list (p.backends.map BackendConfig.toDocument))]

theorem ProxyConfig.toDocument_eq (p : ProxyConfig) :
    p.toDocument = .object (p.spellings.filterMap Spelling.member?) := by
  unfold ProxyConfig.toDocument ProxyConfig.spellings
  cases p.inactivePort <;>
    cases (p.healthcheckTimeoutMillis == Config.defaultHealthcheckTimeout) <;>
      cases (p.shutdownDelaySeconds == 0) <;> rfl

theorem Config.wordJson_of_beq {n default : UInt64} (h : (n == default) = true) :
    some (Config.wordJson default) = some (Config.wordJson n) := by
  rw [eq_of_beq h]

theorem ProxyConfig.toDocument_spells (p : ProxyConfig) :
    proxyKind.Spells p.toDocument p.toFullDocument := by
  rw [ProxyConfig.toDocument_eq]
  refine Kind.record_spells p.spellings ?_ ?_
  · show ["port", "inactive_mysql_port", "healthcheck_timeout_millis", "shutdown_delay_seconds",
      "backends"].Nodup
    decide
  · simp only [ProxyConfig.spellings, List.forall_mem_cons]
    exact ⟨Kind.port_spells _, Spelling.right_port _ _,
      Spelling.right_unless Config.wordJson_of_beq (Kind.word_spells _),
      Spelling.right_unless Config.wordJson_of_beq (Kind.word_spells _),
      Kind.list_spells fun b _ => b.toDocument_spells, nofun⟩

/-- The settings of a configuration. -/
def Config.spellings (c : Config) : List Spelling :=
  [.unless (c.bindAddress == Config.defaultBindAddress)
     (.optional "bind_address" .text (.text "0.0.0.0")) (.text c.bindAddress) (.text c.bindAddress),
   .always (.required "proxy" proxyKind) c.proxy.toDocument c.proxy.toFullDocument,
   .always (.required "api" apiKind) c.api.toDocument c.api.toDocument,
   .port "health_port" c.healthPort,
   .unless (c.agentTls == Config.defaultTls)
     (.optional "galera_agent_tls" tlsKind Config.defaultTls.toFullDocument)
     c.agentTls.toDocument c.agentTls.toFullDocument,
   .unless (c.statusLogIntervalSecs == Config.defaultStatusLogInterval)
     (.optional "status_log_interval_secs" .word (.nat 30))
     (Config.wordJson c.statusLogIntervalSecs) (Config.wordJson c.statusLogIntervalSecs)]

theorem Config.toDocument_eq (c : Config) :
    c.toDocument = .object (c.spellings.filterMap Spelling.member?) := by
  unfold Config.toDocument Config.spellings
  cases (c.bindAddress == Config.defaultBindAddress) <;> cases c.healthPort <;>
    cases (c.agentTls == Config.defaultTls) <;>
      cases (c.statusLogIntervalSecs == Config.defaultStatusLogInterval) <;> rfl

/-- What a configuration leaves out has the default that is documented. -/
theorem Config.toDocument_spells (c : Config) :
    configKind.Spells c.toDocument c.toFullDocument := by
  rw [Config.toDocument_eq]
  refine Kind.record_spells c.spellings ?_ ?_
  · show ["bind_address", "proxy", "api", "health_port", "galera_agent_tls",
      "status_log_interval_secs"].Nodup
    decide
  · simp only [Config.spellings, List.forall_mem_cons]
    refine ⟨Spelling.right_unless ?_ (Kind.text_spells _), c.proxy.toDocument_spells,
      c.api.toDocument_spells, Spelling.right_port _ _,
      Spelling.right_unless ?_ c.agentTls.toDocument_spells,
      Spelling.right_unless Config.wordJson_of_beq (Kind.word_spells _), nofun⟩
    · intro h
      rw [eq_of_beq h]
      rfl
    · intro h
      rw [eq_of_beq h]
      rfl

/-! ## What can be written -/

/-- A kind all of whose values can be written in every notation. -/
def Document.Kind.Portable (kind : Kind) : Prop :=
  ∀ v : Json, kind.admits v = true → v.Portable

theorem Json.portableItems_iff {vs : List Json} :
    Json.PortableItems vs ↔ ∀ v ∈ vs, v.Portable := by
  induction vs with
  | nil => simp [Json.PortableItems]
  | cons v vs ih => simp [Json.PortableItems, ih]

theorem Json.portableMembers_iff {members : List (String × Json)} :
    Json.PortableMembers members ↔ ∀ m ∈ members, m.2.Portable := by
  induction members with
  | nil => simp [Json.PortableMembers]
  | cons m members ih =>
      obtain ⟨key, v⟩ := m
      simp [Json.PortableMembers, ih]

theorem Document.Kind.Portable.text : Kind.text.Portable
  | .text _, _ => trivial

theorem Document.Kind.Portable.flag : Kind.flag.Portable
  | .bool _, _ => trivial

theorem Document.Kind.Portable.below {bound : Nat} (h : bound ≤ UInt64.size) :
    (Kind.below bound).Portable
  | .int n, hadmits => by
      obtain ⟨hpos, hlt⟩ := Kind.below_admits_iff.1 hadmits
      show Int64.minValue.toInt ≤ n ∧ n < UInt64.size
      have hmin : Int64.minValue.toInt ≤ 0 := by decide
      omega

theorem Document.Kind.Portable.list {item : Kind} (h : item.Portable) : (Kind.list item).Portable
  | .list _, hadmits =>
      Json.portableItems_iff.2 fun v hv => h v (Kind.list_admits_iff.1 hadmits v hv)

theorem Document.Kind.Portable.record {settings : List Setting}
    (h : ∀ s ∈ settings, s.kind.Portable) : (Kind.record settings).Portable
  | .object members, hadmits => by
      refine Json.portableMembers_iff.2 fun m hm => ?_
      obtain ⟨s, hs, -, hm'⟩ := (takes_iff.1 (Kind.record_admits_iff.1 hadmits).1).2.2 m hm
      exact h s hs m.2 hm'

theorem configKind_portable : configKind.Portable := by
  have hport : Kind.port.Portable := .below (by decide)
  have hword : Kind.word.Portable := .below (by decide)
  have hbackend : backendKind.Portable :=
    .record (by
      simp [backendSettings, Setting.required, Setting.optional, Kind.Portable.text, hport])
  have hproxy : proxyKind.Portable :=
    .record (by
      simp [proxySettings, Setting.required, Setting.optional, hport, hword, hbackend.list])
  have hapi : apiKind.Portable :=
    .record (by simp [apiSettings, Setting.required, Setting.optional, Kind.Portable.text, hport])
  have htls : tlsKind.Portable :=
    .record (by simp [tlsSettings, Setting.optional, Kind.Portable.text, Kind.Portable.flag])
  exact .record (by
    simp [configSettings, Setting.required, Setting.optional, Kind.Portable.text, hport, hword,
      hproxy, hapi, htls])

/-! ## Writing and reading -/

/-- The compact text of a document without nulls holds the document. -/
theorem ConfigFormat.holds_render {v : Json} (h : v.Portable) :
    ConfigFormat.json.Holds v.render v := by
  obtain ⟨node, offset, hdocument, hshows⟩ := Json.document_render h
  exact .json hdocument rfl (hshows _)

/-- Every configuration is read back from its written form in all its fields, and written again in
the same form. What the form leaves out has the default that is held, in every section. -/
theorem Config.parse_render (c : Config) (path : String) :
    Config.parse "json" c.toDocument.render path = .ok c ∧
    (Config.parse "json" c.toDocument.render path).map (·.toDocument.render) =
      .ok c.toDocument.render ∧
    LeavesOutDefaults configSettings c.toDocument c.toFullDocument ∧
    LeavesOutDefaults proxySettings c.proxy.toDocument c.proxy.toFullDocument ∧
    LeavesOutDefaults apiSettings c.api.toDocument c.api.toDocument ∧
    LeavesOutDefaults tlsSettings c.agentTls.toDocument c.agentTls.toFullDocument ∧
    ∀ b ∈ c.proxy.backends, LeavesOutDefaults backendSettings b.toDocument b.toDocument := by
  have hspells := c.toDocument_spells
  -- the written form has no null and numbers of 64 bits only, so that its text holds it
  have hholds := ConfigFormat.holds_render (configKind_portable _ hspells.admits)
  have hparse : Config.parse "json" c.toDocument.render path = .ok c :=
    (Config.parse_eq_ok_iff_complete (ConfigFormat.ofExtension_extension .json) hholds
      hspells.agreed).2
      ⟨hspells.admits, hspells.complete.symm⟩
  refine ⟨hparse, ?_, ?_, ?_, ?_, ?_, fun b _ => ?_⟩
  · rw [hparse]
    rfl
  · exact hspells.leavesOutDefaults (by decide)
  · exact c.proxy.toDocument_spells.leavesOutDefaults (by decide)
  · exact c.api.toDocument_spells.leavesOutDefaults (by decide)
  · exact c.agentTls.toDocument_spells.leavesOutDefaults (by decide)
  · exact b.toDocument_spells.leavesOutDefaults (by decide)

end GaleraProxy
