import GaleraProxy.Config.Parse
import GaleraProxy.Config.Validation
import GaleraProxy.Text.Sha256

/-!
# Finding and loading the configuration file

`resolvePath` decides which file is meant and `Config.load` takes the state of that file to a
configuration that has been parsed, merged with the credentials given outside the file, and
validated, together with a version that names its contents. `Config.check` does the same for a file
that is only to be checked.
-/

namespace GaleraProxy

/-- What is at a path, which may also lead on beyond a file. A file that cannot be read comes with
what the system says about it. -/
inductive FileState where
  | missing
  | beyondFile
  | directory
  | unreadable (reason : String)
  | file (content : List UInt8)
  deriving DecidableEq, Repr

/-- The version of a configuration: the digest of the file it was read from. -/
structure ConfigVersion where
  hash : String
  deriving DecidableEq, Repr

/-- The characters that fill exactly `n` bytes, if a character ends there. -/
def takeBytes? (n : Nat) : List Char → Option (List Char)
  | [] => if n = 0 then some [] else none
  | c :: rest =>
      if n = 0 then some []
      else if c.utf8Size ≤ n then (takeBytes? (n - c.utf8Size) rest).map (c :: ·) else none

/-- The first eight bytes of a version, enough to tell deployments apart, or all of it where they do
not end with a character. -/
def ConfigVersion.short (v : ConfigVersion) : String :=
  match takeBytes? 8 v.hash.toList with
  | some front => String.ofList front
  | none => v.hash

/-- Credentials given on the command line or in the environment. -/
structure ConfigOverrides where
  apiUsername : Option String
  apiPassword : Option String
  deriving DecidableEq, Repr

/-- Put the given credentials in the place of those in the file. -/
def ConfigOverrides.apply (o : ConfigOverrides) (c : Config) : Config :=
  { c with api :=
      { c.api with
        username := o.apiUsername.getD c.api.username
        password := o.apiPassword.getD c.api.password } }

/-- The components of a path, without those that name the directory they stand in. -/
def pathComponents (path : String) : List String :=
  ((path.toList.splitOn '/').map String.ofList).filter fun part => part != "" && part != "."

/-- The name of the file at a path. -/
def fileName? (path : String) : Option String :=
  match (pathComponents path).getLast? with
  | some ".." => none
  | other => other

/-- The part of a file name after its last full stop, unless the name only begins with one. -/
def extensionOfName (name : String) : Option String :=
  let back := name.toList.reverse
  match back.dropWhile (· ≠ '.') with
  | [] | [_] => none
  | _ :: _ => some (String.ofList (back.takeWhile (· ≠ '.')).reverse)

/-- The extension of the file at a path. -/
def pathExtension? (path : String) : Option String := (fileName? path).bind extensionOfName

/-- The lower-case form of the basic letters of a text. -/
def lowerAscii (s : String) : String := s.map DomainName.lowerBasic

/-- The notation of the file at a path, by its extension in any case. -/
def formatOfPath (path : String) : Except ProxyError ConfigFormat :=
  let extension := lowerAscii ((pathExtension? path).getD "")
  match ConfigFormat.ofExtension? extension with
  | some format => .ok format
  | none => .error (.unsupportedFormat extension)

/-- The names tried in the working directory when no file is named. -/
def autoDetectFiles : List String :=
  ["switchboard.yaml", "switchboard.yml", "switchboard.json", "switchboard.toml"]

/-- A path inside a directory. -/
def joinPath (dir name : String) : String :=
  if dir.isEmpty || dir.endsWith "/" then dir ++ name else dir ++ "/" ++ name

/-- The configuration file: the one that is named, or else the first that exists of those that are
tried. -/
def resolvePath (explicit : Option String) (dir : String) (isFile : String → Bool) :
    Except ProxyError String :=
  match explicit with
  | some path => .ok path
  | none =>
      match (autoDetectFiles.map (joinPath dir)).find? isFile with
      | some path => .ok path
      | none =>
          .error (.noConfigSource ("Pass --config <path> or create one of "
            ++ ", ".intercalate autoDetectFiles ++ " (try `switchboard init`)."))

/-- What is said of a directory that should be a file. -/
def directoryMessage : String := "Is a directory (os error 21)"

/-- What is said of a file that is not text. -/
def notTextMessage : String := "stream did not contain valid UTF-8"

/-- What is said of a path that leads on beyond a file. -/
def beyondFileMessage : String := "Not a directory (os error 20)"

/-- Whether there is something at the path. -/
def FileState.isPresent : FileState → Bool
  | missing | beyondFile => false
  | directory | unreadable _ | file _ => true

/-- The text of a file that is to be loaded. -/
def FileState.text (state : FileState) (path : String) : Except ProxyError String :=
  match state with
  | .missing => .error (.configFileNotFound path)
  | .beyondFile => .error (.inputOutput beyondFileMessage)
  | .directory => .error (.inputOutput directoryMessage)
  | .unreadable reason => .error (.inputOutput reason)
  | .file content =>
      match Utf8.decode? content with
      | some text => .ok text
      | none => .error (.inputOutput notTextMessage)

/-- Load the configuration at a path: parse it, put the given credentials in place, and validate. -/
def Config.load (path : String) (state : FileState) (overrides : ConfigOverrides) :
    Except ProxyError (Config × ConfigVersion) := do
  let format ← formatOfPath path
  let text ← state.text path
  let parsed ← Config.parse format.extension text path
  let config := overrides.apply parsed
  match config.validate with
  | .error errors => .error (.configValidation errors)
  | .ok () => pure (config, ⟨Sha256.digest (Utf8.encode text)⟩)

/-- Read the configuration at a path that is to be checked. The extension counts as it is written.
-/
def Config.check (path : String) (state : FileState) :
    Except ProxyError (Config × List ValidationError) := do
  let text ← if state.isPresent then state.text path else .error (.configFileNotFound path)
  let config ← Config.parse ((pathExtension? path).getD "") text path
  pure (config, config.validationErrors)

end GaleraProxy
