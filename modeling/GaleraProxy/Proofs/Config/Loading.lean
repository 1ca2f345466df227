import GaleraProxy.Cli.Launch
import GaleraProxy.Proofs.Config.Rules

/-!
# Loading a configuration with credentials from outside its file

Credentials that are given outside the file take the place of those in it before the configuration
is validated. `Holds` says what the file at a path is read as, whatever these credentials are;
`errors_around_credentials` says that they change nothing in what is reported but the part about
them. `load_accepts_merged` says when a configuration is loaded, which one, and what is reported if
it is not.
-/

namespace GaleraProxy

/-! ## What is read -/

/-- There is a file at a path whose extension, in any case, is that of a notation, and in this
notation its bytes are the text of a configuration. -/
def FileState.Holds (state : FileState) (path : String) (content : List UInt8) (parsed : Config) :
    Prop :=
  ∃ format text, ConfigFormat.ofExtension? (lowerAscii (extensionAt path)) = some format ∧
    state = .file content ∧ Utf8.decode? content = some text ∧ format.read text = .ok parsed

variable {state : FileState} {path : String} {content : List UInt8} {parsed : Config}

theorem FileState.text_eq_ok_iff {text : String} : state.text path = .ok text ↔
    ∃ content, state = .file content ∧ Utf8.decode? content = some text := by
  cases state with
  | file content =>
      rw [FileState.text]
      cases hdecoded : Utf8.decode? content with
      | none => simp [hdecoded]
      | some other => simp [hdecoded]
  | _ => simp [FileState.text]

/-- What is read at a path before the given credentials are put in place: a configuration, and the
text that it was parsed from. -/
def FileState.configAt (state : FileState) (path : String) :
    Except ProxyError (Config × String) := do
  let format ← formatOfPath path
  let text ← state.text path
  let parsed ← Config.parse format.extension text path
  pure (parsed, text)

theorem FileState.configAt_eq_ok_iff {text : String} : state.configAt path = .ok (parsed, text) ↔
    ∃ content, state.Holds path content parsed ∧ content = Utf8.encode text := by
  rw [FileState.configAt, bind_eq_ok_iff]
  constructor
  · rintro ⟨format, hpath, h⟩
    obtain ⟨text', htext, h⟩ := bind_eq_ok_iff.mp h
    obtain ⟨parsed', hparsed, h⟩ := bind_eq_ok_iff.mp h
    cases h
    obtain ⟨content, hstate, hdecoded⟩ := text_eq_ok_iff.mp htext
    obtain ⟨other, hother, hread⟩ := Config.parse_eq_ok_iff.mp hparsed
    rw [ConfigFormat.ofExtension_extension, Option.some.injEq] at hother
    subst hother
    exact ⟨content, ⟨format, text, formatOfPath_eq_ok_iff.mp hpath, hstate, hdecoded, hread⟩,
      Utf8.decode_eq_some_iff.mp hdecoded⟩
  · rintro ⟨content, ⟨format, text', hformat, hstate, hdecoded, hread⟩, rfl⟩
    obtain rfl : text' = text :=
      Option.some.inj (hdecoded.symm.trans (Utf8.decode_eq_some_iff.mpr rfl))
    have hparsed : Config.parse format.extension text' path = .ok parsed :=
      Config.parse_eq_ok_iff.mpr ⟨format, ConfigFormat.ofExtension_extension format, hread⟩
    exact ⟨format, formatOfPath_eq_ok_iff.mpr hformat, bind_eq_ok_iff.mpr
      ⟨text', text_eq_ok_iff.mpr ⟨_, hstate, hdecoded⟩, bind_eq_ok_iff.mpr ⟨parsed, hparsed, rfl⟩⟩⟩

/-- A configuration is loaded by validating what is read with the given credentials in place. -/
theorem Config.load_eq (path : String) (state : FileState) (overrides : ConfigOverrides) :
    Config.load path state overrides = state.configAt path >>= fun (parsed, text) =>
      match (overrides.apply parsed).validate with
      | .error errors => .error (.configValidation errors)
      | .ok () => .ok (overrides.apply parsed, ⟨Sha256.digest (Utf8.encode text)⟩) := by
  simp only [Config.load, FileState.configAt, bind_assoc, pure_bind]
  rfl

/-- An error that comes up before there is a configuration: the extension is that of no notation,
there is no file or no text in it, or the text is not that of a configuration. -/
def ProxyError.OfReading : ProxyError → Prop
  | .unsupportedFormat _ | .configFileNotFound _ | .inputOutput _ | .configParse _ _ => True
  | _ => False

theorem formatOfPath_error {e : ProxyError} (h : formatOfPath path = .error e) : e.OfReading := by
  rw [formatOfPath] at h
  cases hformat : ConfigFormat.ofExtension? (lowerAscii ((pathExtension? path).getD "")) with
  | some format => simp [hformat] at h
  | none =>
      simp only [hformat, Except.error.injEq] at h
      subst h
      trivial

theorem FileState.text_error {e : ProxyError} (h : state.text path = .error e) : e.OfReading := by
  cases state with
  | file content =>
      rw [FileState.text] at h
      cases hdecoded : Utf8.decode? content with
      | some text => simp [hdecoded] at h
      | none =>
          simp only [hdecoded, Except.error.injEq] at h
          subst h
          trivial
  | _ =>
      obtain rfl := Except.error.inj h
      trivial

theorem Config.parse_error {extension text : String} {e : ProxyError}
    (h : Config.parse extension text path = .error e) : e.OfReading := by
  rw [Config.parse] at h
  cases hformat : ConfigFormat.ofExtension? extension with
  | none =>
      simp only [hformat, Except.error.injEq] at h
      subst h
      trivial
  | some format =>
      cases hread : format.read text with
      | ok parsed => simp [hformat, hread] at h
      | error detail =>
          simp only [hformat, hread, Except.error.injEq] at h
          subst h
          trivial

theorem FileState.configAt_error {e : ProxyError} (h : state.configAt path = .error e) :
    e.OfReading := by
  rw [FileState.configAt, bind_eq_error_iff] at h
  rcases h with hpath | ⟨format, -, h⟩
  · exact formatOfPath_error hpath
  · rcases bind_eq_error_iff.mp h with htext | ⟨text, -, h⟩
    · exact text_error htext
    · rcases bind_eq_error_iff.mp h with hparsed | ⟨parsed, -, h⟩
      · exact Config.parse_error hparsed
      · cases h

/-- A configuration that a file holds is loaded if it is valid with the given credentials in place.
-/
theorem FileState.Holds.load_eq (h : state.Holds path content parsed)
    (overrides : ConfigOverrides) : Config.load path state overrides =
      match (overrides.apply parsed).validate with
      | .error errors => .error (.configValidation errors)
      | .ok () => .ok (overrides.apply parsed, ⟨Sha256.digest content⟩) := by
  obtain ⟨text, hdecoded⟩ : ∃ text, Utf8.decode? content = some text := by
    obtain ⟨format, text, -, -, hdecoded, -⟩ := h
    exact ⟨text, hdecoded⟩
  obtain rfl := Utf8.decode_eq_some_iff.mp hdecoded
  rw [Config.load_eq, configAt_eq_ok_iff.mpr ⟨_, h, rfl⟩]
  rfl

/-- A file that holds no configuration is refused for a reason in which the given credentials have
no part. -/
theorem load_of_not_holds (h : ¬ ∃ content parsed, state.Holds path content parsed) :
    ∃ e : ProxyError, e.OfReading ∧ ∀ overrides, Config.load path state overrides = .error e := by
  cases hconfig : state.configAt path with
  | ok result =>
      obtain ⟨content, hholds, -⟩ := FileState.configAt_eq_ok_iff.mp hconfig
      exact absurd ⟨content, _, hholds⟩ h
  | error e =>
      refine ⟨e, FileState.configAt_error hconfig, fun overrides => ?_⟩
      rw [Config.load_eq, hconfig]
      rfl

/-! ## What is reported -/

/-- A report on the user name or the password of the API. -/
def ValidationError.AboutCredentials (e : ValidationError) : Prop :=
  e.sectionName = "api" ∧ (e.field = "username" ∨ e.field = "password")

/-- What is reported on a user name and a password. -/
def credentialErrors (username password : String) : List ValidationError :=
  (if username = "" then [Violation.emptyUsername.report] else [])
    ++ (if password = "" then [Violation.emptyPassword.report] else [])

namespace Config

/-- Only the rules for the user name and the password are about credentials. -/
theorem Rule.of_field {rule : Rule} (h : rule.field = "username" ∨ rule.field = "password") :
    rule = .username ∨ rule = .password := by
  cases rule with
  | username => exact .inl rfl
  | password => exact .inr rfl
  | backend i r => cases r <;> simp [Rule.field, BackendConfig.Rule.field] at h
  | _ => simp [Rule.field] at h

variable {c : Config}

/-- What other rules report is not about the credentials. -/
theorem not_aboutCredentials {violations : List Violation} {rules : List Rule}
    (h : violations.map some = c.broken rules) (husername : .username ∉ rules)
    (hpassword : .password ∉ rules) :
    ∀ e ∈ violations.map Violation.report, ¬ e.AboutCredentials := by
  intro e he habout
  obtain ⟨v, hv, rfl⟩ := List.mem_map.mp he
  have hmem : some v ∈ c.broken rules := by
    rw [← h]
    exact List.mem_map_of_mem hv
  obtain ⟨rule, hrule, hviolation⟩ := List.mem_map.mp hmem
  have hrule' := (List.mem_filter.mp hrule).1
  have hreported : c.reported? rule = some v.report := by
    rw [reported?, hviolation]
    rfl
  have hfield := habout.2
  rw [(place_of_reported hreported).2] at hfield
  rcases Rule.of_field hfield with rfl | rfl
  · exact husername hrule'
  · exact hpassword hrule'

theorem map_report_credentials (username password : String) :
    (Violation.when username.isEmpty .emptyUsername
      ++ Violation.when password.isEmpty .emptyPassword).map Violation.report =
        credentialErrors username password := by
  by_cases husername : username = "" <;> by_cases hpassword : password = "" <;>
    simp [Violation.when, credentialErrors, husername, hpassword]

/-- Given credentials change nothing of what is reported before and after what is about them. -/
theorem errors_around_credentials (c : Config) :
    ∃ before after : List ValidationError, (∀ e ∈ before ++ after, ¬ e.AboutCredentials) ∧
      ∀ overrides : ConfigOverrides, (overrides.apply c).validationErrors =
        before ++ credentialErrors (overrides.apiUsername.getD c.api.username)
          (overrides.apiPassword.getD c.api.password) ++ after := by
  have hport : (c.api.port == 0) = true ↔ ¬ c.Keeps .apiPort := by simp [Keeps]
  have hbefore :
      (c.proxy.violations ++ Violation.when (c.api.port == 0) (.zeroPort .api)).map some =
        c.broken (([.activePort, .inactivePort, .portsDiffer, .timeout, .someBackend]
          ++ Rule.ofBackends 0 c.proxy.backends.length) ++ [.apiPort]) := by
    rw [List.map_append, broken_append, proxy_broken, when_broken hport fun _ => rfl]
  have hafter : (c.agentTls.violations ++ c.rootViolations).map some =
      c.broken ([.serverName, .authorities] ++ [.healthPort, .statusInterval]) := by
    rw [List.map_append, broken_append, tls_broken, root_broken]
  refine ⟨(c.proxy.violations ++ Violation.when (c.api.port == 0) (.zeroPort .api)).map
      Violation.report, (c.agentTls.violations ++ c.rootViolations).map Violation.report, ?_, ?_⟩
  · rw [List.forall_mem_append]
    exact ⟨not_aboutCredentials hbefore (by simp [Rule.mem_ofBackends_iff])
      (by simp [Rule.mem_ofBackends_iff]), not_aboutCredentials hafter (by simp) (by simp)⟩
  · intro overrides
    rw [← map_report_credentials, ← List.map_append, ← List.map_append]
    refine congrArg (List.map Violation.report) ?_
    simp only [violations, ApiConfig.violations, ConfigOverrides.apply, List.append_assoc]
    rfl

theorem aboutCredentials_of_mem {username password : String} :
    ∀ e ∈ credentialErrors username password, e.AboutCredentials := by
  intro e he
  rcases List.mem_append.mp he with h | h
  · obtain rfl := List.mem_singleton.mp (List.mem_ite_nil_right.mp h).2
    exact ⟨rfl, .inl rfl⟩
  · obtain rfl := List.mem_singleton.mp (List.mem_ite_nil_right.mp h).2
    exact ⟨rfl, .inr rfl⟩

/-- Credentials that are not empty make a configuration valid exactly if nothing else is wrong with
it. -/
theorem validate_apply_of_given {username password : String} (husername : username ≠ "")
    (hpassword : password ≠ "") :
    ((⟨some username, some password⟩ : ConfigOverrides).apply c).validate = .ok () ↔
      ∀ e ∈ c.validationErrors, e.AboutCredentials := by
  obtain ⟨before, after, hothers, herrors⟩ := errors_around_credentials c
  have hown := herrors ⟨none, none⟩
  rw [ConfigOverrides.apply_none] at hown
  have hnone : credentialErrors username password = [] := by
    simp [credentialErrors, husername, hpassword]
  rw [validate_eq_ok_iff, herrors, hown, Option.getD_some, Option.getD_some, hnone,
    List.append_nil]
  constructor
  · intro hempty e he
    obtain ⟨hbefore, hafter⟩ := List.append_eq_nil_iff.mp hempty
    rw [hbefore, hafter, List.nil_append, List.append_nil] at he
    exact aboutCredentials_of_mem e he
  · intro habout
    refine List.eq_nil_iff_forall_not_mem.mpr fun e he => hothers e he (habout e ?_)
    rcases List.mem_append.mp he with hbefore | hafter
    · exact List.mem_append_left _ (List.mem_append_left _ hbefore)
    · exact List.mem_append_right _ hafter

/-- Credentials that are given and empty are all that is reported of a configuration that is valid
without them. -/
theorem errors_apply_of_valid (h : c.validate = .ok ()) (overrides : ConfigOverrides) :
    (overrides.apply c).validationErrors =
      (if overrides.apiUsername = some "" then [Violation.emptyUsername.report] else [])
        ++ (if overrides.apiPassword = some "" then [Violation.emptyPassword.report] else []) := by
  have hkeeps := validate_eq_ok_iff_keeps.mp h
  have hgiven : ∀ {given : Option String} {own : String}, own ≠ "" →
      (given.getD own = "" ↔ given = some "") := by
    intro given own hown
    cases given with
    | none => simp [hown]
    | some s => simp
  obtain ⟨before, after, -, herrors⟩ := errors_around_credentials c
  have hown := herrors ⟨none, none⟩
  rw [ConfigOverrides.apply_none, (validate_eq_ok_iff c).mp h] at hown
  obtain ⟨⟨hbefore, -⟩, hafter⟩ : (before = [] ∧ _) ∧ after = [] := by
    simpa only [eq_comm, List.nil_eq_append_iff] using hown
  rw [herrors, hbefore, hafter, List.nil_append, List.append_nil, credentialErrors]
  simp only [hgiven (hkeeps .username), hgiven (hkeeps .password)]

/-- An invalid configuration is refused with all that is reported of it. -/
theorem validate_eq_error_iff {errors : List ValidationError} :
    c.validate = .error errors ↔ errors ≠ [] ∧ errors = c.validationErrors := by
  rw [validate]
  cases herrors : c.validationErrors with
  | nil => simp
  | cons first others =>
      constructor
      · intro h
        obtain rfl := Except.error.inj h
        exact ⟨List.cons_ne_nil _ _, rfl⟩
      · rintro ⟨-, rfl⟩
        rfl

end Config

/-! ## What is loaded -/

theorem FileState.Holds.unique {content' : List UInt8} {parsed' : Config}
    (h : state.Holds path content parsed) (h' : state.Holds path content' parsed') :
    content = content' ∧ parsed = parsed' := by
  obtain ⟨format, text, hformat, hstate, hdecoded, hread⟩ := h
  obtain ⟨format', text', hformat', hstate', hdecoded', hread'⟩ := h'
  obtain rfl := Option.some.inj (hformat.symm.trans hformat')
  obtain rfl := FileState.file.inj (hstate.symm.trans hstate')
  obtain rfl := Option.some.inj (hdecoded.symm.trans hdecoded')
  exact ⟨rfl, Except.ok.inj (hread.symm.trans hread')⟩

/-- A configuration is loaded exactly if the file holds one that is valid with the given credentials
in place. -/
theorem Config.load_eq_ok_iff_holds {overrides : ConfigOverrides} {c : Config}
    {version : ConfigVersion} : Config.load path state overrides = .ok (c, version) ↔
      ∃ content parsed, state.Holds path content parsed ∧ c = overrides.apply parsed ∧
        c.validate = .ok () ∧ version = ⟨Sha256.digest content⟩ := by
  constructor
  · intro h
    by_cases hholds : ∃ content parsed, state.Holds path content parsed
    · obtain ⟨content, parsed, hparsed⟩ := hholds
      rw [hparsed.load_eq] at h
      cases hvalid : (overrides.apply parsed).validate with
      | error errors => simp [hvalid] at h
      | ok _ =>
          simp only [hvalid, Except.ok.injEq, Prod.mk.injEq] at h
          exact ⟨content, parsed, hparsed, h.1.symm, h.1 ▸ hvalid, h.2.symm⟩
    · obtain ⟨e, -, herror⟩ := load_of_not_holds hholds
      rw [herror] at h
      cases h
  · rintro ⟨content, parsed, hparsed, rfl, hvalid, rfl⟩
    rw [hparsed.load_eq, hvalid]

/-- What is wrong with a configuration is reported exactly if the file holds one in which something
is wrong with the given credentials in place. -/
theorem Config.load_eq_error_iff_holds {overrides : ConfigOverrides}
    {errors : List ValidationError} :
    Config.load path state overrides = .error (.configValidation errors) ↔
      ∃ content parsed, state.Holds path content parsed ∧
        (overrides.apply parsed).validate = .error errors := by
  constructor
  · intro h
    by_cases hholds : ∃ content parsed, state.Holds path content parsed
    · obtain ⟨content, parsed, hparsed⟩ := hholds
      rw [hparsed.load_eq] at h
      cases hvalid : (overrides.apply parsed).validate with
      | ok _ => simp [hvalid] at h
      | error others =>
          simp only [hvalid, Except.error.injEq, ProxyError.configValidation.injEq] at h
          subst h
          exact ⟨content, parsed, hparsed, hvalid⟩
    · obtain ⟨e, hreading, herror⟩ := load_of_not_holds hholds
      obtain rfl := Except.error.inj ((herror overrides).symm.trans h)
      exact hreading.elim
  · rintro ⟨content, parsed, hparsed, hvalid⟩
    rw [hparsed.load_eq, hvalid]

/-- A service that is ready to start has the configuration that was loaded from its path. -/
theorem Cli.RunOptions.loaded_of_launch {o : Cli.RunOptions} {files : Cli.Files}
    {interfaces : Interfaces} {l : Cli.Launch} (h : (o.launch files interfaces).2 = .ok l) :
    Config.load l.path (files.state l.path) o.overrides = .ok (l.config, l.version) := by
  rw [Cli.RunOptions.launch] at h
  cases hload : o.load files with
  | error e => simp [hload] at h
  | ok found =>
      obtain ⟨path, format, config, version⟩ := found
      simp only [hload] at h
      obtain ⟨listening, -, rfl⟩ := map_eq_ok_iff.mp h
      obtain ⟨path', -, h⟩ := bind_eq_ok_iff.mp hload
      obtain ⟨format', -, h⟩ := bind_eq_ok_iff.mp h
      obtain ⟨⟨config', version'⟩, hconfig, h⟩ := bind_eq_ok_iff.mp h
      cases h
      exact hconfig

/-- A configuration is loaded exactly if the file holds one that is valid with the given credentials
in place of its own; it is this one, and its version is the digest of the bytes of the file. What is
wrong with it is reported exactly if the file holds one that is not valid with them. Every other
file is refused for a reason in which the given credentials have no part. They change nothing of
what is reported but the part about them: a configuration with which nothing else is wrong becomes
valid by credentials that are not empty, and of one that is valid nothing is reported but those that
are given and empty. A service that is ready to start has a valid configuration. -/
theorem Config.load_accepts_merged (path : String) (state : FileState) :
    (∀ overrides c version, Config.load path state overrides = .ok (c, version) ↔
      ∃ content parsed, state.Holds path content parsed ∧
        c = { parsed with api :=
          { parsed.api with
            username := overrides.apiUsername.getD parsed.api.username
            password := overrides.apiPassword.getD parsed.api.password } } ∧
        c.validate = .ok () ∧ version = ⟨Sha256.digest content⟩) ∧
    (∀ overrides errors, Config.load path state overrides = .error (.configValidation errors) ↔
      ∃ content parsed, state.Holds path content parsed ∧ errors ≠ [] ∧
        errors = (overrides.apply parsed).validationErrors) ∧
    ((¬ ∃ content parsed, state.Holds path content parsed) →
      ∃ e : ProxyError, e.OfReading ∧
        ∀ overrides, Config.load path state overrides = .error e) ∧
    (∀ content content' parsed parsed', state.Holds path content parsed →
      state.Holds path content' parsed' → content = content' ∧ parsed = parsed') ∧
    (∀ parsed : Config, ∃ before after : List ValidationError,
      (∀ e ∈ before ++ after, ¬ e.AboutCredentials) ∧
      ∀ overrides : ConfigOverrides, (overrides.apply parsed).validationErrors =
        before ++ credentialErrors (overrides.apiUsername.getD parsed.api.username)
          (overrides.apiPassword.getD parsed.api.password) ++ after) ∧
    (∀ (parsed : Config) (username password : String), username ≠ "" → password ≠ "" →
      (((⟨some username, some password⟩ : ConfigOverrides).apply parsed).validate = .ok () ↔
        ∀ e ∈ parsed.validationErrors, e.AboutCredentials)) ∧
    (∀ (parsed : Config) (overrides : ConfigOverrides), parsed.validate = .ok () →
      (overrides.apply parsed).validationErrors =
        (if overrides.apiUsername = some "" then [Violation.emptyUsername.report] else [])
          ++ (if overrides.apiPassword = some "" then [Violation.emptyPassword.report] else [])) ∧
    ∀ (o : Cli.RunOptions) (files : Cli.Files) (interfaces : Interfaces) (l : Cli.Launch),
      (o.launch files interfaces).2 = .ok l → l.config.validate = .ok () := by
  refine ⟨fun overrides c version => Config.load_eq_ok_iff_holds, fun overrides errors => ?_,
    load_of_not_holds, fun _ _ _ _ h h' => h.unique h', Config.errors_around_credentials,
    fun _ _ _ husername hpassword => Config.validate_apply_of_given husername hpassword,
    fun _ overrides hvalid => Config.errors_apply_of_valid hvalid overrides,
    fun o files interfaces l hlaunch => ?_⟩
  · simp only [Config.load_eq_error_iff_holds, Config.validate_eq_error_iff]
  · obtain ⟨content, parsed, -, -, hvalid, -⟩ :=
      Config.load_eq_ok_iff_holds.mp (Cli.RunOptions.loaded_of_launch hlaunch)
    exact hvalid

/-- The short JSON configuration is refused with an empty password and becomes one with other
credentials; a file of another kind is refused in any case; and the service is made ready to start
with the short configuration. -/
theorem Config.load_accepts_merged_of_starter :
    let state := Cli.Files.starter.state "a.json"
    let o : Cli.RunOptions := ⟨some "a.json", .info, false, false, false, none, none⟩
    ∃ content c, state.Holds "a.json" content c ∧ c.validate = .ok () ∧
      Config.load "a.json" state ⟨none, some ""⟩ =
        .error (.configValidation [Violation.emptyPassword.report]) ∧
      (∃ version, Config.load "a.json" state ⟨some "ops", some "new"⟩ =
        .ok ({ c with api := { c.api with username := "ops", password := "new" } }, version)) ∧
      (∃ e : ProxyError, e.OfReading ∧
        ∀ overrides, Config.load "a.ini" (.file content) overrides = .error e) ∧
      ∃ l, (o.launch .starter ⟨fun _ => true, []⟩).2 = .ok l ∧ l.config.validate = .ok () := by
  intro state o
  obtain ⟨c, hread, herrors⟩ := Cli.Files.starter_read
  have hholds : state.Holds "a.json" (Utf8.encode (ConfigFormat.json.template false)) c :=
    ⟨.json, _, by decide +kernel, rfl, Utf8.decode_eq_some_iff.mpr rfl, hread⟩
  have hvalid : c.validate = .ok () := (Config.validate_eq_ok_iff c).mpr herrors
  obtain ⟨hloaded, hreported, -, -, -, hrepaired, hempty, hlaunched⟩ :=
    Config.load_accepts_merged "a.json" state
  have hother : ¬ ∃ content parsed,
      (FileState.file (Utf8.encode (ConfigFormat.json.template false))).Holds "a.ini" content
        parsed := by
    rintro ⟨content, parsed, format, text, hformat, -⟩
    have hnone : ConfigFormat.ofExtension? (lowerAscii (extensionAt "a.ini")) = none := by
      decide +kernel
    rw [hnone] at hformat
    cases hformat
  obtain ⟨-, -, hrefused, -⟩ := Config.load_accepts_merged "a.ini"
    (.file (Utf8.encode (ConfigFormat.json.template false)))
  have hbroken := hempty c ⟨none, some ""⟩ hvalid
  have hothers : ∀ e ∈ c.validationErrors, e.AboutCredentials := by simp [herrors]
  refine ⟨_, c, hholds, hvalid, ?_, ?_, hrefused hother, ?_⟩
  · exact (hreported _ _).mpr ⟨_, c, hholds, List.cons_ne_nil _ _, hbroken.symm⟩
  · exact ⟨_, (hloaded _ _ _).mpr ⟨_, c, hholds, rfl,
      (hrepaired c "ops" "new" (by decide) (by decide)).mpr hothers, rfl⟩⟩
  · cases hlaunch : (o.launch .starter ⟨fun _ => true, []⟩).2 with
    | error e =>
        have hready : (o.launch .starter ⟨fun _ => true, []⟩).2.toOption.isSome = true := by
          decide +kernel
        rw [hlaunch] at hready
        cases hready
    | ok l => exact ⟨l, rfl, hlaunched o .starter ⟨fun _ => true, []⟩ l hlaunch⟩

end GaleraProxy
