import GaleraProxy.Cli.Ending
import GaleraProxy.Proofs.Basic
import GaleraProxy.Proofs.Text.Utf8

/-!
# Checking a configuration and loading it

`check_eq_ok_iff` and `load_eq_ok_iff` say when a configuration is checked and when it is loaded.
Both take the same steps but for the extension of the file, which counts as it is written when the
file is checked and in any case when it is loaded. `succeeds_iff_loaded` says what follows from
this for the command that validates a configuration.
-/

namespace GaleraProxy

/-! ## Extensions -/

/-- A notation is named by its own extension. -/
@[simp] theorem ConfigFormat.ofExtension_extension (format : ConfigFormat) :
    ConfigFormat.ofExtension? format.extension = some format := by
  cases format <;> rfl

/-- Extensions that name a notation are in lower case. -/
theorem ConfigFormat.lowerAscii_of_ofExtension {extension : String} {format : ConfigFormat}
    (h : ConfigFormat.ofExtension? extension = some format) : lowerAscii extension = extension := by
  unfold ConfigFormat.ofExtension? at h
  split at h
  · decide +kernel
  · decide +kernel
  · decide +kernel
  · decide +kernel
  · cases h

/-- The extension of a path as it is written, which may be empty. -/
def extensionAt (path : String) : String := (pathExtension? path).getD ""

theorem formatOfPath_eq_ok_iff {path : String} {format : ConfigFormat} :
    formatOfPath path = .ok format ↔
      ConfigFormat.ofExtension? (lowerAscii (extensionAt path)) = some format := by
  unfold formatOfPath extensionAt
  cases hformat : ConfigFormat.ofExtension? (lowerAscii ((pathExtension? path).getD "")) with
  | none => simp [hformat]
  | some other => simp [hformat]

/-! ## The steps of checking and of loading -/

/-- A text is parsed by the notation that its extension names. -/
theorem Config.parse_eq_ok_iff {extension content path : String} {c : Config} :
    Config.parse extension content path = .ok c ↔
      ∃ format, ConfigFormat.ofExtension? extension = some format ∧
        format.read content = .ok c := by
  unfold Config.parse
  cases ConfigFormat.ofExtension? extension with
  | none => simp
  | some format =>
      cases hread : format.read content with
      | error detail => simp [hread]
      | ok other => simp [hread]

/-- A configuration is valid if there is nothing to report. -/
theorem Config.validate_eq_ok_iff (c : Config) : c.validate = .ok () ↔ c.validationErrors = [] := by
  unfold Config.validate
  cases c.validationErrors with
  | nil => simp
  | cons first others => simp

/-- Only the text of a file that is there is asked for. -/
theorem FileState.presentText_eq_ok_iff {state : FileState} {path text : String} :
    (if state.isPresent then state.text path else .error (.configFileNotFound path)) = .ok text ↔
      state.text path = .ok text := by
  cases state with
  | missing => exact Iff.rfl
  | beyondFile => exact ⟨nofun, nofun⟩
  | directory => exact Iff.rfl
  | unreadable reason => exact Iff.rfl
  | file content => exact Iff.rfl

/-- Without credentials given outside the file a configuration stays as it is. -/
@[simp] theorem ConfigOverrides.apply_none (c : Config) :
    ConfigOverrides.apply ⟨none, none⟩ c = c :=
  rfl

/-- A configuration is checked once its text has been read and parsed. -/
theorem Config.check_eq_ok_iff {path : String} {state : FileState} {c : Config}
    {errors : List ValidationError} :
    Config.check path state = .ok (c, errors) ↔
      ∃ text, state.text path = .ok text ∧ Config.parse (extensionAt path) text path = .ok c ∧
        c.validationErrors = errors := by
  have hcheck : Config.check path state =
      (if state.isPresent then state.text path else .error (.configFileNotFound path)) >>=
        fun text => Config.parse (extensionAt path) text path >>= fun config =>
          Except.ok (config, config.validationErrors) := by
    unfold Config.check
    cases state.isPresent <;> rfl
  rw [hcheck, bind_eq_ok_iff]
  simp only [FileState.presentText_eq_ok_iff]
  constructor
  · rintro ⟨text, htext, h⟩
    obtain ⟨config, hparse, h⟩ := bind_eq_ok_iff.1 h
    cases h
    exact ⟨text, htext, hparse, rfl⟩
  · rintro ⟨text, htext, hparse, rfl⟩
    exact ⟨text, htext, bind_eq_ok_iff.2 ⟨c, hparse, rfl⟩⟩

/-- A configuration is loaded once its text has been read in the notation of its path, parsed and
found valid with the given credentials in place. -/
theorem Config.load_eq_ok_iff {path : String} {state : FileState} {overrides : ConfigOverrides}
    {c : Config} {version : ConfigVersion} :
    Config.load path state overrides = .ok (c, version) ↔
      ∃ format text parsed, formatOfPath path = .ok format ∧ state.text path = .ok text ∧
        Config.parse format.extension text path = .ok parsed ∧ overrides.apply parsed = c ∧
        c.validationErrors = [] ∧ ⟨Sha256.digest (Utf8.encode text)⟩ = version := by
  unfold Config.load
  constructor
  · intro h
    obtain ⟨format, hformat, h⟩ := bind_eq_ok_iff.1 h
    obtain ⟨text, htext, h⟩ := bind_eq_ok_iff.1 h
    obtain ⟨parsed, hparse, h⟩ := bind_eq_ok_iff.1 h
    refine ⟨format, text, parsed, hformat, htext, hparse, ?_⟩
    cases hvalid : (overrides.apply parsed).validate with
    | error errors => simp [hvalid] at h
    | ok _ =>
        simp only [hvalid] at h
        cases h
        exact ⟨rfl, (Config.validate_eq_ok_iff _).1 hvalid, rfl⟩
  · rintro ⟨format, text, parsed, hformat, htext, hparse, rfl, hvalid, rfl⟩
    refine bind_eq_ok_iff.2 ⟨format, hformat, bind_eq_ok_iff.2 ⟨text, htext, ?_⟩⟩
    refine bind_eq_ok_iff.2 ⟨parsed, hparse, ?_⟩
    simp only [(Config.validate_eq_ok_iff _).2 hvalid]
    rfl

/-! ## The command that validates -/

/-- The names of one notation are read alike. -/
theorem Config.parse_extension {extension : String} {format : ConfigFormat} {content path : String}
    (h : ConfigFormat.ofExtension? extension = some format) :
    Config.parse extension content path = Config.parse format.extension content path := by
  unfold Config.parse
  rw [h, ConfigFormat.ofExtension_extension]

/-- A check that succeeds is one that finds nothing to report. -/
theorem Cli.ValidateOptions.run_status_eq_zero_iff {o : Cli.ValidateOptions} {files : Cli.Files} :
    (o.run files).status = 0 ↔ ∃ c, Config.check o.config (files.state o.config) = .ok (c, []) := by
  unfold Cli.ValidateOptions.run
  cases Config.check o.config (files.state o.config) with
  | error e => simp [Cli.Ending.failure]
  | ok checked =>
      obtain ⟨c, errors⟩ := checked
      cases errors with
      | nil => cases o.format <;> simp [Cli.validReport, Cli.Ending.success, Cli.Ending.after]
      | cons first others =>
          cases o.format <;>
            simp [Cli.brokenReport, Cli.Ending.failure, Cli.Ending.after]

/-- A configuration that passes the check is one that is loaded from a path with a lower-case
extension. -/
theorem Config.check_eq_ok_nil_iff {path : String} {state : FileState} {c : Config} :
    Config.check path state = .ok (c, []) ↔
      lowerAscii (extensionAt path) = extensionAt path ∧
        ∃ version, Config.load path state ⟨none, none⟩ = .ok (c, version) := by
  rw [Config.check_eq_ok_iff]
  simp only [Config.load_eq_ok_iff, ConfigOverrides.apply_none]
  constructor
  · rintro ⟨text, htext, hparse, hvalid⟩
    obtain ⟨format, hformat, -⟩ := Config.parse_eq_ok_iff.1 hparse
    have hlower := ConfigFormat.lowerAscii_of_ofExtension hformat
    have hpath : formatOfPath path = .ok format := by
      rw [formatOfPath_eq_ok_iff, hlower]
      exact hformat
    rw [Config.parse_extension hformat] at hparse
    exact ⟨hlower, _, format, text, c, hpath, htext, hparse, rfl, hvalid, rfl⟩
  · rintro ⟨hlower, version, format, text, parsed, hpath, htext, hparse, rfl, hvalid, -⟩
    rw [formatOfPath_eq_ok_iff, hlower] at hpath
    rw [← Config.parse_extension hpath] at hparse
    exact ⟨text, htext, hparse, hvalid⟩

/-- The command that validates a configuration succeeds exactly if the configuration is loaded and
the extension of its path is in lower case; it has then parsed the configuration that is loaded. A
file with an extension in capitals is loaded, but the command refuses it. -/
theorem Cli.ValidateOptions.succeeds_iff_loaded (o : Cli.ValidateOptions) (files : Cli.Files) :
    ((o.run files).status = 0 ↔
      lowerAscii (extensionAt o.config) = extensionAt o.config ∧
        ∃ c version, Config.load o.config (files.state o.config) ⟨none, none⟩ = .ok (c, version)) ∧
    ((o.run files).status = 0 → ∀ c version,
      Config.load o.config (files.state o.config) ⟨none, none⟩ = .ok (c, version) →
        Config.check o.config (files.state o.config) = .ok (c, [])) := by
  rw [Cli.ValidateOptions.run_status_eq_zero_iff]
  simp only [Config.check_eq_ok_nil_iff]
  refine ⟨?_, ?_⟩
  · constructor
    · rintro ⟨c, hlower, version, hload⟩
      exact ⟨hlower, c, version, hload⟩
    · rintro ⟨hlower, c, version, hload⟩
      exact ⟨c, hlower, version, hload⟩
  · rintro ⟨-, hlower, -⟩ c version hload
    exact ⟨hlower, version, hload⟩

/-- A directory with the short JSON configuration at every path. -/
def Cli.Files.starter : Cli.Files where
  state := fun _ => .file (Utf8.encode (ConfigFormat.json.template false))
  refusal := fun _ => none

theorem Cli.Files.starter_text (path : String) :
    (Cli.Files.starter.state path).text path = .ok (ConfigFormat.json.template false) := by
  unfold FileState.text Cli.Files.starter
  simp only [Utf8.decode_eq_some_iff.2 rfl]

/-- The short JSON configuration is read, and there is nothing to report about it. -/
theorem Cli.Files.starter_read :
    ∃ c, ConfigFormat.json.read (ConfigFormat.json.template false) = .ok c ∧
      c.validationErrors = [] := by
  have hread : ((ConfigFormat.json.read (ConfigFormat.json.template false)).map
      (·.validationErrors.isEmpty)).toOption = some true := by
    decide +kernel
  cases h : ConfigFormat.json.read (ConfigFormat.json.template false) with
  | error detail => rw [h] at hread; cases hread
  | ok c =>
      rw [h] at hread
      exact ⟨c, rfl, List.isEmpty_iff.1 (Option.some.inj hread)⟩

/-- The short JSON configuration is loaded under every name with its extension, be it in capitals.
-/
theorem Cli.Files.starter_loaded {path : String}
    (h : ConfigFormat.ofExtension? (lowerAscii (extensionAt path)) = some .json) :
    ∃ c version, Config.load path (Cli.Files.starter.state path) ⟨none, none⟩ =
      .ok (c, version) := by
  obtain ⟨c, hread, hvalid⟩ := Cli.Files.starter_read
  have hparse : Config.parse "json" (ConfigFormat.json.template false) path = .ok c :=
    Config.parse_eq_ok_iff.2 ⟨.json, rfl, hread⟩
  exact ⟨c, _, Config.load_eq_ok_iff.2 ⟨.json, _, c, formatOfPath_eq_ok_iff.2 h,
    Cli.Files.starter_text path, hparse, rfl, hvalid, rfl⟩⟩

/-- The short JSON configuration passes the check under the name that is usual for it. -/
theorem Cli.ValidateOptions.succeeds_iff_loaded_of_starter :
    ((⟨"a.json", .text⟩ : Cli.ValidateOptions).run .starter).status = 0 ∧
      ∃ c, Config.check "a.json" (Cli.Files.starter.state "a.json") = .ok (c, []) := by
  have hloaded : ∃ c version,
      Config.load "a.json" (Cli.Files.starter.state "a.json") ⟨none, none⟩ = .ok (c, version) :=
    Cli.Files.starter_loaded (by decide +kernel)
  have hsucceeds := Cli.ValidateOptions.succeeds_iff_loaded ⟨"a.json", .text⟩ .starter
  have hrun := hsucceeds.1.2 ⟨by decide +kernel, hloaded⟩
  obtain ⟨c, version, hload⟩ := hloaded
  exact ⟨hrun, c, hsucceeds.2 hrun c version hload⟩

/-- Under a name with its extension in capitals the same configuration is loaded, but it does not
pass the check. -/
theorem Cli.ValidateOptions.refuses_loaded :
    (∃ c version, Config.load "a.JSON" (Cli.Files.starter.state "a.JSON") ⟨none, none⟩ =
      .ok (c, version)) ∧
      ((⟨"a.JSON", .text⟩ : Cli.ValidateOptions).run .starter).status ≠ 0 := by
  constructor
  · exact Cli.Files.starter_loaded (by decide +kernel)
  · rw [Ne, Cli.ValidateOptions.run_status_eq_zero_iff]
    rintro ⟨c, hcheck⟩
    have hlower : lowerAscii (extensionAt "a.JSON") = extensionAt "a.JSON" :=
      (Config.check_eq_ok_nil_iff.1 hcheck).1
    exact absurd hlower (by decide +kernel)

/-!
## What is known of a valid configuration

A configuration is valid if no section breaks a rule. The lemmas about the single settings are what
the rules say about them: the interval of the status reports is positive, the two proxy ports
differ, and there is a certificate in the bundle of a configuration that uses TLS.
-/

@[simp] theorem Violation.when_eq_nil_iff {broken : Bool} {v : Violation} :
    Violation.when broken v = [] ↔ broken = false := by
  cases broken with
  | true => simp [Violation.when]
  | false => simp [Violation.when]

namespace Config

variable {c : Config}

/-- A configuration is valid exactly if no section breaks a rule. -/
theorem validate_eq_ok_iff_sections :
    c.validate = .ok () ↔ c.proxy.violations = [] ∧ c.api.violations = [] ∧
      c.agentTls.violations = [] ∧ c.rootViolations = [] := by
  rw [validate_eq_ok_iff, validationErrors, List.map_eq_nil_iff, violations]
  simp only [List.append_eq_nil_iff, and_assoc]

/-- The status is reported at intervals that are not zero. -/
theorem interval_ne_zero (h : c.validate = .ok ()) : c.statusLogIntervalSecs ≠ 0 := by
  obtain ⟨-, -, -, hroot⟩ := validate_eq_ok_iff_sections.mp h
  rw [rootViolations, List.append_eq_nil_iff] at hroot
  exact beq_eq_false_iff_ne.mp (Violation.when_eq_nil_iff.mp hroot.2)

/-- The two proxy ports differ. -/
theorem inactive_port_ne (h : c.validate = .ok ()) :
    ∀ port, c.proxy.inactivePort = some port → port ≠ c.proxy.port := by
  obtain ⟨hproxy, -⟩ := validate_eq_ok_iff_sections.mp h
  simp only [ProxyConfig.violations, List.append_eq_nil_iff] at hproxy
  obtain ⟨⟨⟨⟨-, hinactive⟩, -⟩, -⟩, -⟩ := hproxy
  intro port hport heq
  subst heq
  rw [ProxyConfig.inactiveViolations, hport] at hinactive
  by_cases hzero : c.proxy.port = 0
  · simp [hzero] at hinactive
  · simp [hzero] at hinactive

/-- The bundle of authorities is well-formed, and there is a certificate in it. -/
theorem exists_certificates (h : c.validate = .ok ()) (htls : c.agentTls.enabled = true) :
    ∃ certificates, certificates ≠ [] ∧ Pem.certificates c.agentTls.ca = .ok certificates := by
  obtain ⟨-, -, hsection, -⟩ := validate_eq_ok_iff_sections.mp h
  rw [AgentTls.violations, if_pos htls, List.append_eq_nil_iff] at hsection
  obtain ⟨-, hca⟩ := hsection
  rw [AgentTls.caViolations] at hca
  by_cases hempty : c.agentTls.ca.isEmpty = true
  · simp [hempty] at hca
  · rw [if_neg hempty, Pem.validate] at hca
    cases hcertificates : Pem.certificates c.agentTls.ca with
    | error e => simp [hcertificates] at hca
    | ok certificates =>
        cases certificates with
        | nil => simp [hcertificates] at hca
        | cons first others => exact ⟨first :: others, List.cons_ne_nil _ _, rfl⟩

/-- One node that is reached without TLS, and a port for the inactive node. -/
def oneNode : Config where
  bindAddress := defaultBindAddress
  proxy :=
    { port := 3306, inactivePort := some 3307, healthcheckTimeoutMillis := defaultHealthcheckTimeout
      shutdownDelaySeconds := 0, backends := [⟨"db-0", "10.0.0.1", 3306, 9201, "status"⟩] }
  api := { port := 8080, username := "admin", password := "secret" }
  healthPort := none
  agentTls := defaultTls
  statusLogIntervalSecs := defaultStatusLogInterval

end Config

end GaleraProxy
