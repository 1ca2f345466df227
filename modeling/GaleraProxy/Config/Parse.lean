import GaleraProxy.Config.Schema
import GaleraProxy.Error
import GaleraProxy.Json.Document
import GaleraProxy.Toml.Document
import GaleraProxy.Yaml.Document

/-!
# Configuration files in three notations

`Config.parse` reads a configuration written in YAML, JSON or TOML. The notation is named by the
extension of the file; the language of the configuration is the same in all of them.
-/

namespace GaleraProxy

/-- The notations of configuration files. -/
inductive ConfigFormat where
  | yaml
  | json
  | toml
  deriving DecidableEq, Repr

/-- The usual extension of a notation, which is also its name. -/
def ConfigFormat.extension : ConfigFormat → String
  | .yaml => "yaml"
  | .json => "json"
  | .toml => "toml"

/-- The notation that an extension names. -/
def ConfigFormat.ofExtension? : String → Option ConfigFormat
  | "yaml" | "yml" => some .yaml
  | "json" => some .json
  | "toml" => some .toml
  | _ => none

/-- Read a configuration in a notation; a failure is described in words. -/
def ConfigFormat.read (format : ConfigFormat) (content : String) : Except String Config :=
  match format with
  | .json => Json.readRecord Config.configShape .whole (Utf8.encode content)
  | .yaml => Yaml.readRecord Config.configShape content.toList
  | .toml => Toml.readRecord Config.configShape content.toList

/-- Read a configuration whose notation is named by an extension. `path` is what an error calls the
file. -/
def Config.parse (extension content path : String) : Except ProxyError Config :=
  match ConfigFormat.ofExtension? extension with
  | none => .error (.unsupportedFormat extension)
  | some format =>
      match format.read content with
      | .ok config => .ok config
      | .error detail => .error (.configParse path detail)

end GaleraProxy
