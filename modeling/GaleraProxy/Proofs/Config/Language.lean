import GaleraProxy.Config.Language
import GaleraProxy.Proofs.Config.Checking
import GaleraProxy.Proofs.Document.Order

/-!
# The configuration language is the documented one

The shape of every section builds the records that are documented, so a text that holds a document
is parsed exactly if the document is a configuration, to what the document means once the defaults
have been filled in. `parse_iff_documented` adds that neither the notation nor the order of the keys
makes a difference.
-/

namespace GaleraProxy

open Document

/-- The proxy section with every setting spelled out. -/
def ProxyConfig.toFullDocument (p : ProxyConfig) : Json :=
  .object
    [("port", Config.portJson p.port),
     ("inactive_mysql_port", Config.optionalPortJson p.inactivePort),
     ("healthcheck_timeout_millis", Config.wordJson p.healthcheckTimeoutMillis),
     ("shutdown_delay_seconds", Config.wordJson p.shutdownDelaySeconds),
     ("backends", .list (p.backends.map BackendConfig.toDocument))]

/-- The section about TLS with every setting spelled out. -/
def AgentTls.toFullDocument (t : AgentTls) : Json :=
  .object [("enabled", .bool t.enabled), ("server_name", .text t.serverName), ("ca", .text t.ca)]

namespace Config

variable {ε : Type} (dialect : Dialect) (depth : Nat)

/-! ## The sections -/

/-- What a backend under construction holds. -/
def BackendDraft.held (d : BackendDraft) : List (String × Option Json) :=
  [("name", d.name.map .text), ("host", d.host.map .text), ("port", d.port.map portJson),
   ("status_port", d.statusPort.map portJson), ("status_endpoint", some (.text d.statusEndpoint))]

theorem reads_backend : Reads (ε := ε) (depth + 1) backendKind BackendConfig.toDocument
    ((backendShape dialect).read dialect) := by
  suffices hbuilds : (backendShape dialect).Builds _ BackendDraft.held backendSettings _ from
    hbuilds.reads dialect
  refine
    { strict := rfl, sets := ?_, distinct := by decide, empty := rfl, finish := ?_ }
  · exact
      .cons ((reads_text depth).sets
        (fun (d : BackendDraft) b => { d with name := some b }) fun _ _ => rfl) <|
      .cons ((reads_text depth).sets
        (fun (d : BackendDraft) b => { d with host := some b }) fun _ _ => rfl) <|
      .cons ((reads_port dialect depth).sets
        (fun (d : BackendDraft) b => { d with port := some b }) fun _ _ => rfl) <|
      .cons ((reads_port dialect depth).sets
        (fun (d : BackendDraft) b => { d with statusPort := some b }) fun _ _ => rfl) <|
      .cons ((reads_text depth).sets
        (fun (d : BackendDraft) b => { d with statusEndpoint := b }) fun _ _ => rfl) .nil
  · rintro ⟨name, host, port, statusPort, endpoint⟩
    cases name <;> cases host <;> cases port <;> cases statusPort <;> rfl

/-- What a proxy section under construction holds. -/
def ProxyDraft.held (d : ProxyDraft) : List (String × Option Json) :=
  [("port", d.port.map portJson), ("inactive_mysql_port", some (optionalPortJson d.inactivePort)),
   ("healthcheck_timeout_millis", some (wordJson d.healthcheckTimeoutMillis)),
   ("shutdown_delay_seconds", some (wordJson d.shutdownDelaySeconds)),
   ("backends", d.backends.map fun backends => .list (backends.map BackendConfig.toDocument))]

theorem reads_proxy : Reads (ε := ε) (depth + 3) proxyKind ProxyConfig.toFullDocument
    ((proxyShape dialect).read dialect) := by
  suffices hbuilds : (proxyShape dialect).Builds _ ProxyDraft.held proxySettings _ from
    hbuilds.reads dialect
  refine
    { strict := rfl, sets := ?_, distinct := by decide, empty := rfl, finish := ?_ }
  · exact
      .cons ((reads_port dialect _).sets
        (fun (d : ProxyDraft) b => { d with port := some b }) fun _ _ => rfl) <|
      .cons ((reads_port dialect _).optional.sets
        (fun (d : ProxyDraft) b => { d with inactivePort := b }) fun _ _ => rfl) <|
      .cons ((reads_word dialect _).sets
        (fun (d : ProxyDraft) b => { d with healthcheckTimeoutMillis := b }) fun _ _ => rfl) <|
      .cons ((reads_word dialect _).sets
        (fun (d : ProxyDraft) b => { d with shutdownDelaySeconds := b }) fun _ _ => rfl) <|
      .cons (((reads_backend dialect depth).list dialect).sets
        (fun (d : ProxyDraft) b => { d with backends := some b }) fun _ _ => rfl) .nil
  · rintro ⟨port, inactivePort, timeout, delay, backends⟩
    cases port <;> cases backends <;> rfl

/-- What an API section under construction holds. -/
def ApiDraft.held (d : ApiDraft) : List (String × Option Json) :=
  [("port", d.port.map portJson), ("username", some (.text d.username)),
   ("password", some (.text d.password))]

theorem reads_api : Reads (ε := ε) (depth + 1) apiKind ApiConfig.toDocument
    ((apiShape dialect).read dialect) := by
  suffices hbuilds : (apiShape dialect).Builds _ ApiDraft.held apiSettings _ from
    hbuilds.reads dialect
  refine
    { strict := rfl, sets := ?_, distinct := by decide, empty := rfl, finish := ?_ }
  · exact
      .cons ((reads_port dialect depth).sets
        (fun (d : ApiDraft) b => { d with port := some b }) fun _ _ => rfl) <|
      .cons ((reads_text depth).sets
        (fun (d : ApiDraft) b => { d with username := b }) fun _ _ => rfl) <|
      .cons ((reads_text depth).sets
        (fun (d : ApiDraft) b => { d with password := b }) fun _ _ => rfl) .nil
  · rintro ⟨port, username, password⟩
    cases port <;> rfl

/-- What a section about TLS holds, finished or not. -/
def tlsHeld (t : AgentTls) : List (String × Option Json) :=
  [("enabled", some (.bool t.enabled)), ("server_name", some (.text t.serverName)),
   ("ca", some (.text t.ca))]

theorem reads_tls : Reads (ε := ε) (depth + 1) tlsKind AgentTls.toFullDocument
    ((tlsShape ε).read dialect) := by
  suffices hbuilds : (tlsShape ε).Builds _ tlsHeld tlsSettings _ from
    hbuilds.reads dialect
  refine
    { strict := rfl, sets := ?_, distinct := by decide, empty := rfl, finish := fun _ => rfl }
  exact
    .cons ((reads_flag depth).sets
      (fun (t : AgentTls) b => { t with enabled := b }) fun _ _ => rfl) <|
    .cons ((reads_text depth).sets
      (fun (t : AgentTls) b => { t with serverName := b }) fun _ _ => rfl) <|
    .cons ((reads_text depth).sets
      (fun (t : AgentTls) b => { t with ca := b }) fun _ _ => rfl) .nil

/-- What a configuration under construction holds. -/
def ConfigDraft.held (d : ConfigDraft) : List (String × Option Json) :=
  [("bind_address", some (.text d.bindAddress)), ("proxy", d.proxy.map ProxyConfig.toFullDocument),
   ("api", d.api.map ApiConfig.toDocument), ("health_port", some (optionalPortJson d.healthPort)),
   ("galera_agent_tls", some d.agentTls.toFullDocument),
   ("status_log_interval_secs", some (wordJson d.statusLogIntervalSecs))]

theorem reads_config : Reads (ε := ε) (depth + 4) configKind Config.toFullDocument
    ((configShape dialect).read dialect) := by
  suffices hbuilds : (configShape dialect).Builds _ ConfigDraft.held configSettings _ from
    hbuilds.reads dialect
  refine
    { strict := rfl, sets := ?_, distinct := by decide, empty := rfl, finish := ?_ }
  · exact
      .cons ((reads_text _).sets
        (fun (d : ConfigDraft) b => { d with bindAddress := b }) fun _ _ => rfl) <|
      .cons ((reads_proxy dialect depth).sets
        (fun (d : ConfigDraft) b => { d with proxy := some b }) fun _ _ => rfl) <|
      .cons ((reads_api dialect _).sets
        (fun (d : ConfigDraft) b => { d with api := some b }) fun _ _ => rfl) <|
      .cons ((reads_port dialect _).optional.sets
        (fun (d : ConfigDraft) b => { d with healthPort := b }) fun _ _ => rfl) <|
      .cons ((reads_tls dialect _).sets
        (fun (d : ConfigDraft) b => { d with agentTls := b }) fun _ _ => rfl) <|
      .cons ((reads_word dialect _).sets
        (fun (d : ConfigDraft) b => { d with statusLogIntervalSecs := b }) fun _ _ => rfl) .nil
  · rintro ⟨bindAddress, proxy, api, healthPort, agentTls, interval⟩
    cases proxy <;> cases api <;> rfl

end Config

/-! ## The order of keys -/

theorem backendKind_steady : backendKind.Steady := by
  refine .record (by decide) ?_
  simp [backendSettings, Setting.required, Setting.optional, Kind.Steady.text, Kind.Steady.port]

theorem proxyKind_steady : proxyKind.Steady := by
  refine .record (by decide) ?_
  simp [proxySettings, Setting.required, Setting.optional, Kind.Steady.port, Kind.Steady.word,
    backendKind_steady.list]

theorem apiKind_steady : apiKind.Steady := by
  refine .record (by decide) ?_
  simp [apiSettings, Setting.required, Setting.optional, Kind.Steady.text, Kind.Steady.port]

theorem tlsKind_steady : tlsKind.Steady := by
  refine .record (by decide) ?_
  simp [tlsSettings, Setting.optional, Kind.Steady.text, Kind.Steady.flag]

theorem configKind_steady : configKind.Steady := by
  refine .record (by decide) ?_
  simp [configSettings, Setting.required, Setting.optional, Kind.Steady.text, Kind.Steady.port,
    Kind.Steady.word, proxyKind_steady, apiKind_steady, tlsKind_steady]

/-! ## Configurations and their documents -/

theorem Config.portJson_injective : Function.Injective Config.portJson := by
  intro p q h
  injection h with h
  exact UInt16.toNat_inj.1 (Int.ofNat.inj h)

theorem Config.wordJson_injective : Function.Injective Config.wordJson := by
  intro m n h
  injection h with h
  exact UInt64.toNat_inj.1 (Int.ofNat.inj h)

theorem Config.optionalPortJson_injective : Function.Injective Config.optionalPortJson := by
  intro p q h
  cases p with
  | none =>
      cases q with
      | none => rfl
      | some q => cases h
  | some p =>
      cases q with
      | none => cases h
      | some q => exact congrArg some (Config.portJson_injective h)

theorem BackendConfig.toDocument_injective : Function.Injective BackendConfig.toDocument := by
  rintro ⟨⟩ ⟨⟩ h
  simpa [BackendConfig.toDocument, Config.portJson_injective.eq_iff] using h

/-- A configuration with every setting spelled out is the document of no other. -/
theorem Config.toFullDocument_injective : Function.Injective Config.toFullDocument := by
  rintro ⟨_, ⟨⟩, ⟨⟩, _, ⟨⟩, _⟩ ⟨_, ⟨⟩, ⟨⟩, _, ⟨⟩, _⟩ h
  simpa [Config.toFullDocument, ApiConfig.toDocument, Config.portJson_injective.eq_iff,
    Config.wordJson_injective.eq_iff, Config.optionalPortJson_injective.eq_iff,
    BackendConfig.toDocument_injective.list_map.eq_iff] using h

/-! ## The three notations -/

section
variable {δ α : Type} {depth : Nat} {kind : Kind} {write : α → Json} {v : Json}

/-- A JSON text with nothing after its document is read as its document. -/
theorem Json.readRecord_fits {shape : Dialect → Shape Json.Error δ α} {plan : Plan}
    {source : List UInt8} {node : Json.JsonNode} {rest : Json.Input}
    (hreads : Reads depth kind write ((shape Json.dialect).read Json.dialect))
    (hdocument : Json.document plan source = (node, some rest))
    (hrest : rest.skipBlank.rest = []) (hshows : Shows depth node v)
    (hagreed : kind.agreed v = true) : kind.Fits write v (Json.readRecord shape plan source) := by
  refine (hreads [] node v hshows hagreed).reworded ?_
  unfold Json.readRecord
  rw [hdocument]
  cases hread : (shape Json.dialect).read Json.dialect [] node with
  | error fault =>
      simp only [hread]
      rfl
  | ok a =>
      simp only [hread, hrest]
      rfl

/-- A YAML text that is one complete document is read as that document. -/
theorem Yaml.readRecord_fits {shape : Dialect → Shape Unit δ α} {text : List Char}
    {events : List Yaml.Event}
    (hreads : Reads depth kind write ((shape Yaml.dialect).read Yaml.dialect))
    (hfirst : Yaml.firstDocument text = .events events true true)
    (hshows : Shows depth (Yaml.tree (.events events true true)) v)
    (hagreed : kind.agreed v = true) : kind.Fits write v (Yaml.readRecord shape text) := by
  refine (hreads [] _ v hshows hagreed).reworded ?_
  unfold Yaml.readRecord
  rw [hfirst]
  cases hread : (shape Yaml.dialect).read Yaml.dialect []
      (Yaml.tree (.events events true true)) with
  | error fault =>
      simp only [hread]
      cases fault <;> rfl
  | ok a =>
      simp only [hread]
      rfl

/-- A well-formed TOML text is read as its document. -/
theorem Toml.readRecord_fits {shape : Dialect → Shape Unit δ α} {source : List Char}
    {root : Toml.TomlNode}
    (hreads : Reads depth kind write ((shape Toml.dialect).read Toml.dialect))
    (hdocument : Toml.document? source = some root) (hshows : Shows depth root v)
    (hagreed : kind.agreed v = true) : kind.Fits write v (Toml.readRecord shape source) := by
  refine (hreads [] root v hshows hagreed).reworded ?_
  unfold Toml.readRecord
  rw [hdocument]
  cases hread : (shape Toml.dialect).read Toml.dialect [] root with
  | error fault =>
      simp only [hread]
      cases fault <;> rfl
  | ok a =>
      simp only [hread]
      rfl

/-- A TOML text that is not well-formed is not read. -/
theorem Toml.readRecord_fits_of_none {shape : Dialect → Shape Unit δ α} {source : List Char}
    (hdocument : Toml.document? source = none) (hadmits : kind.admits v = false) :
    kind.Fits write v (Toml.readRecord shape source) := by
  unfold Toml.readRecord
  rw [hdocument]
  exact hadmits

end

/-- A text that holds a document is read exactly if the document is a configuration. -/
theorem ConfigFormat.read_fits {format : ConfigFormat} {content : String} {v : Json}
    (hholds : format.Holds content v) (hagreed : configKind.agreed v = true) :
    configKind.Fits Config.toFullDocument v (format.read content) := by
  cases hholds with
  | json hdocument hrest hshows =>
      show configKind.Fits Config.toFullDocument v
        (Json.readRecord Config.configShape .whole (Utf8.encode content))
      exact Json.readRecord_fits (Config.reads_config _ 2) hdocument hrest hshows hagreed
  | yaml hfirst hshows =>
      show configKind.Fits Config.toFullDocument v
        (Yaml.readRecord Config.configShape content.toList)
      exact Yaml.readRecord_fits (Config.reads_config _ 2) hfirst hshows hagreed
  | toml hdocument hshows =>
      show configKind.Fits Config.toFullDocument v
        (Toml.readRecord Config.configShape content.toList)
      exact Toml.readRecord_fits (Config.reads_config _ 2) hdocument hshows hagreed
  | repeated hdocument hrepeated =>
      show configKind.Fits Config.toFullDocument v
        (Toml.readRecord Config.configShape content.toList)
      -- a document that repeats a key is no configuration either
      refine Toml.readRecord_fits_of_none hdocument (Bool.eq_false_iff.2 fun hadmits => ?_)
      rw [configKind_steady.distinct hadmits] at hrepeated
      cases hrepeated

/-- What a text is parsed to is the document that it holds, with the defaults filled in. -/
theorem Config.parse_eq_ok_iff_complete {extension content path : String} {format : ConfigFormat}
    {v : Json} (hformat : ConfigFormat.ofExtension? extension = some format)
    (hholds : format.Holds content v) (hagreed : configKind.agreed v = true) {c : Config} :
    Config.parse extension content path = .ok c ↔
      configKind.admits v = true ∧ c.toFullDocument = configKind.complete v := by
  have hfits := ConfigFormat.read_fits hholds hagreed
  rw [Config.parse_eq_ok_iff]
  simp only [hformat, Option.some.injEq, exists_eq_left']
  cases hread : format.read content with
  | error detail =>
      rw [hread] at hfits
      have hadmits : configKind.admits v = false := hfits
      simp [hadmits]
  | ok other =>
      rw [hread] at hfits
      obtain ⟨hadmits, hcomplete⟩ := hfits
      simp only [Except.ok.injEq, hadmits, true_and, ← hcomplete,
        Config.toFullDocument_injective.eq_iff]
      exact eq_comm

/-- A text that holds a document is parsed exactly if the document is a configuration as it is
documented. The result has every value of the document and the documented defaults for what is
absent, and it is the same for every text in any notation that holds the document with its keys in
any order. -/
theorem Config.parse_iff_documented {extension content : String} {format : ConfigFormat}
    {v : Json} (hformat : ConfigFormat.ofExtension? extension = some format)
    (hholds : format.Holds content v) (hagreed : configKind.agreed v = true) (path : String) :
    ((∃ c, Config.parse extension content path = .ok c) ↔ configKind.admits v = true) ∧
    (∀ c, Config.parse extension content path = .ok c →
      c.toFullDocument = configKind.complete v) ∧
    ∀ extension' format' content' v' path', ConfigFormat.ofExtension? extension' = some format' →
      format'.Holds content' v' → v.Reordered v' → ∀ c,
        (Config.parse extension content path = .ok c ↔
          Config.parse extension' content' path' = .ok c) := by
  refine ⟨?_, ?_, ?_⟩
  · constructor
    · rintro ⟨c, hparse⟩
      exact ((Config.parse_eq_ok_iff_complete hformat hholds hagreed).1 hparse).1
    · intro hadmits
      have hfits := ConfigFormat.read_fits hholds hagreed
      cases hread : format.read content with
      | error detail =>
          rw [hread] at hfits
          rw [show configKind.admits v = false from hfits] at hadmits
          cases hadmits
      | ok c => exact ⟨c, Config.parse_eq_ok_iff.2 ⟨format, hformat, hread⟩⟩
  · intro c hparse
    exact ((Config.parse_eq_ok_iff_complete hformat hholds hagreed).1 hparse).2
  · intro extension' format' content' v' path' hformat' hholds' hreordered c
    have hagreed' := configKind_steady.agreed hreordered hagreed
    rw [Config.parse_eq_ok_iff_complete hformat hholds hagreed,
      Config.parse_eq_ok_iff_complete hformat' hholds' hagreed']
    constructor
    · rintro ⟨hadmits, hcomplete⟩
      obtain ⟨hadmits', hcomplete'⟩ := configKind_steady.onward hreordered hadmits
      exact ⟨hadmits', hcomplete.trans hcomplete'.symm⟩
    · rintro ⟨hadmits, hcomplete⟩
      obtain ⟨hadmits', hcomplete'⟩ := configKind_steady.onward hreordered.symm hadmits
      exact ⟨hadmits', hcomplete.trans hcomplete'.symm⟩

/-- A short configuration as a TOML text. -/
def shortToml : String :=
  "[api]\nusername = \"admin\"\nport = 8080\n\n[proxy]\nport = 3306\n\n[[proxy.backends]]\n"
    ++ "name = \"mysql-0\"\nhost = \"10.0.0.10\"\nport = 3306\nstatus_port = 9200\n"

/-- The same configuration as a YAML text with its keys in another order. -/
def shortYaml : String :=
  "proxy:\n  port: 3306\n  backends:\n    - name: \"mysql-0\"\n      host: \"10.0.0.10\"\n"
    ++ "      port: 3306\n      status_port: 9200\n\napi:\n  username: \"admin\"\n  port: 8080\n"

/-- The API section of the short configuration. -/
def shortApi : String × Json := ("api", .object [("username", .text "admin"), ("port", .nat 8080)])

/-- The proxy section of the short configuration. -/
def shortProxy : String × Json :=
  ("proxy", .object
    [("port", .nat 3306),
     ("backends", .list
       [.object [("name", .text "mysql-0"), ("host", .text "10.0.0.10"), ("port", .nat 3306),
         ("status_port", .nat 9200)]])])

/-- The short configuration is parsed alike from both texts, with the defaults for all that it does
not say. -/
theorem Config.parse_iff_documented_of_short :
    (ConfigFormat.ofExtension? "toml" = some .toml ∧
      ConfigFormat.toml.Holds shortToml (.object [shortApi, shortProxy]) ∧
      configKind.agreed (.object [shortApi, shortProxy]) = true) ∧
    ∃ c, Config.parse "toml" shortToml "a.toml" = .ok c ∧
      c.toFullDocument = configKind.complete (.object [shortApi, shortProxy]) ∧
      Config.parse "yml" shortYaml "b.yml" = .ok c := by
  have htoml : ConfigFormat.toml.Holds shortToml (.object [shortApi, shortProxy]) := by
    decide +kernel
  have hyaml : ConfigFormat.yaml.Holds shortYaml (.object [shortProxy, shortApi]) := by
    decide +kernel
  have hagreed : configKind.agreed (.object [shortApi, shortProxy]) = true := by decide +kernel
  have hformat : ConfigFormat.ofExtension? "toml" = some .toml := rfl
  have hdocumented := Config.parse_iff_documented hformat htoml hagreed "a.toml"
  refine ⟨⟨hformat, htoml, hagreed⟩, ?_⟩
  obtain ⟨hparses, hcomplete, hsame⟩ := hdocumented
  obtain ⟨c, hparse⟩ := hparses.2 (by decide +kernel)
  have hreordered :
      Json.Reordered (.object [shortApi, shortProxy]) (.object [shortProxy, shortApi]) :=
    .keys (.swap shortProxy shortApi [])
  exact ⟨c, hparse, hcomplete c hparse,
    (hsame "yml" .yaml shortYaml _ "b.yml" rfl hyaml hreordered c).1 hparse⟩

end GaleraProxy
