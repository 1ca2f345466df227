import GaleraProxy.Config.Parse
import GaleraProxy.Document.Content
import GaleraProxy.Document.Kind

/-!
# The documented configuration language

`configKind` is the language of configurations as it is documented: the sections, the settings in
them with the kinds of their values, and the defaults. `ConfigFormat.Holds` says that a text in one
of the notations holds a document.
-/

namespace GaleraProxy

open Document

/-- The settings of a backend. -/
def backendSettings : List Setting :=
  [.required "name" .text,
   .required "host" .text,
   .required "port" .port,
   .required "status_port" .port,
   .optional "status_endpoint" .text (.text "api/v1/status")]

/-- A backend of the cluster. -/
def backendKind : Kind := .record backendSettings

/-- The settings of the proxy section. -/
def proxySettings : List Setting :=
  [.required "port" .port,
   .optional "inactive_mysql_port" .port .null,
   .optional "healthcheck_timeout_millis" .word (.nat 5000),
   .optional "shutdown_delay_seconds" .word (.nat 0),
   .required "backends" (.list backendKind)]

/-- The proxy section. -/
def proxyKind : Kind := .record proxySettings

/-- The settings of the administration API, whose credentials may be given outside the document. -/
def apiSettings : List Setting :=
  [.required "port" .port,
   .optional "username" .text (.text ""),
   .optional "password" .text (.text "")]

/-- The section of the administration API. -/
def apiKind : Kind := .record apiSettings

/-- The settings of the section about TLS. -/
def tlsSettings : List Setting :=
  [.optional "enabled" .flag (.bool false),
   .optional "server_name" .text (.text ""),
   .optional "ca" .text (.text "")]

/-- The section about TLS. -/
def tlsKind : Kind := .record tlsSettings

/-- The settings of a configuration. Agents are reached without TLS unless there is a section about
it. -/
def configSettings : List Setting :=
  [.optional "bind_address" .text (.text "0.0.0.0"),
   .required "proxy" proxyKind,
   .required "api" apiKind,
   .optional "health_port" .port .null,
   .optional "galera_agent_tls" tlsKind
     (.object [("enabled", .bool false), ("server_name", .text ""), ("ca", .text "")]),
   .optional "status_log_interval_secs" .word (.nat 30)]

/-- A whole configuration. -/
def configKind : Kind := .record configSettings

/-- A text in a notation holds a document: the reader of the notation yields its tree and leaves
nothing over. Collections may be passed over only where YAML is no longer looked into, which is
deeper than any configuration goes. The reader of TOML refuses a repeated key by itself. -/
inductive ConfigFormat.Holds : ConfigFormat → String → Json → Prop where
  | json {content : String} {v : Json} {node : Json.JsonNode} {rest : Json.Input}
      (document : Json.document .whole (Utf8.encode content) = (node, some rest))
      (complete : rest.skipBlank.rest = []) (shows : Shows Yaml.depthLimit node v) :
      ConfigFormat.Holds .json content v
  | yaml {content : String} {v : Json} {events : List Yaml.Event}
      (document : Yaml.firstDocument content.toList = .events events true true)
      (shows : Shows Yaml.depthLimit (Yaml.tree (.events events true true)) v) :
      ConfigFormat.Holds .yaml content v
  | toml {content : String} {v : Json} {root : Toml.TomlNode}
      (document : Toml.document? content.toList = some root)
      (shows : Shows Yaml.depthLimit root v) : ConfigFormat.Holds .toml content v
  | repeated {content : String} {v : Json} (document : Toml.document? content.toList = none)
      (repeated : v.keysDistinct = false) : ConfigFormat.Holds .toml content v

/-- Whether a text holds a document can be found out by reading it. -/
def ConfigFormat.decideHolds (content : String) (v : Json) :
    (format : ConfigFormat) → Decidable (format.Holds content v)
  | .json =>
      match h : Json.document .whole (Utf8.encode content) with
      | (node, some rest) =>
          decidable_of_iff (rest.skipBlank.rest = [] ∧ Shows Yaml.depthLimit node v) <| by
            constructor
            · exact fun ⟨complete, shows⟩ => .json h complete shows
            · intro hholds
              cases hholds with
              | json document complete shows =>
                cases h.symm.trans document
                exact ⟨complete, shows⟩
      | (_, none) => isFalse <| by
          intro hholds
          cases hholds with
          | json document _ _ => cases h.symm.trans document
  | .yaml =>
      match h : Yaml.firstDocument content.toList with
      | .events events true true =>
          decidable_of_iff (Shows Yaml.depthLimit (Yaml.tree (.events events true true)) v) <| by
            constructor
            · exact .yaml h
            · intro hholds
              cases hholds with
              | yaml document shows =>
                cases h.symm.trans document
                exact shows
      | .empty _ | .events _ false _ | .events _ true false => isFalse <| by
          intro hholds
          cases hholds with
          | yaml document _ => cases h.symm.trans document
  | .toml =>
      match h : Toml.document? content.toList with
      | some root =>
          decidable_of_iff (Shows Yaml.depthLimit root v) <| by
            constructor
            · exact .toml h
            · intro hholds
              cases hholds with
              | toml document shows =>
                cases h.symm.trans document
                exact shows
              | repeated document _ => cases h.symm.trans document
      | none =>
          decidable_of_iff (v.keysDistinct = false) <| by
            constructor
            · exact .repeated h
            · intro hholds
              cases hholds with
              | toml document _ => cases h.symm.trans document
              | repeated _ repeated => exact repeated

instance (format : ConfigFormat) (content : String) (v : Json) :
    Decidable (format.Holds content v) :=
  format.decideHolds content v

end GaleraProxy
