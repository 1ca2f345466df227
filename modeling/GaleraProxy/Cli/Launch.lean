import GaleraProxy.Cli.Ending
import GaleraProxy.Service.Run

/-!
# Launching the service

`RunOptions.launch` takes the options of `run` to a service that is ready to start, together with
what is logged on the way; whatever is wrong with the configuration or with the addresses stops it.
-/

namespace GaleraProxy.Cli

/-- How the log is written. -/
inductive LogFormat where
  | json
  | pretty
  deriving DecidableEq, Repr

/-- JSON unless people read the log, be it by their wish or because they sit at a terminal. -/
def LogFormat.resolve (o : RunOptions) (terminal : Bool) : LogFormat :=
  if o.json then .json else if o.pretty || terminal then .pretty else .json

/-- A service that is ready to start. -/
structure Launch where
  config : Config
  version : ConfigVersion
  path : String
  listening : List (Endpoint × SocketAddress)
  deriving DecidableEq, Repr

/-- The directory in which configurations are looked for. -/
def workingDirectory : String := "."

/-- Whether there is a file at a path. -/
def Files.isFile (files : Files) (path : String) : Bool :=
  match files.state path with
  | .file _ | .unreadable _ => true
  | .missing | .beyondFile | .directory => false

/-- The credentials that are given outside the file. -/
def RunOptions.overrides (o : RunOptions) : ConfigOverrides := ⟨o.apiUsername, o.apiPassword⟩

/-- Find and load the configuration. -/
def RunOptions.load (o : RunOptions) (files : Files) :
    Except ProxyError (String × ConfigFormat × Config × ConfigVersion) := do
  let path ← resolvePath o.config workingDirectory files.isFile
  let format ← formatOfPath path
  let (config, version) ← Config.load path (files.state path) o.overrides
  pure (path, format, config, version)

/-- Make the service ready to start: what is logged, and the service or what is wrong. -/
def RunOptions.launch (o : RunOptions) (files : Files) (interfaces : Interfaces) :
    List LogLine × Except ProxyError Launch :=
  match o.load files with
  | .error e => ([], .error e)
  | .ok (path, format, config, version) =>
      let loaded : LogLine := ⟨none, .configLoaded path format.extension version.short⟩
      let warnings := config.warnings.map fun w => (⟨none, .configWarning w⟩ : LogLine)
      (loaded :: warnings,
        (config.prepare interfaces).map fun listening => { config, version, path, listening })

/-- The service that was made ready, at the moment it starts. -/
def Launch.service (l : Launch) (now : Moment) : Service := .create l.config now

/-- The paths that an invocation looks at. -/
def Invocation.paths : Invocation → List String
  | .command (.run o) =>
      match o.config with
      | some path => [path]
      | none => autoDetectFiles.map (joinPath workingDirectory)
  | .command (.init o) => [o.path]
  | .command (.validate o) => [o.config]
  | .command (.health _) | .command .welcome | .help _ | .version _ | .refused _ => []

/-- What is logged of a service that starts at a moment and is told to stop at a later one before
anything else becomes due. -/
def Launch.runToEnd (l : Launch) (commit : String) (first last : Moment) (time : Timestamp) :
    List LogLine :=
  let s := l.service first
  s.startLines l.config commit l.listening ++ [⟨none, .signalled⟩] ++ (s.finish last time).2

/-- A service that is launched and told to stop at once: what is logged at the wanted level, and how
the command ends. -/
def RunOptions.runToEnd (o : RunOptions) (files : Files) (interfaces : Interfaces) (commit : String)
    (now : Moment) (time : Timestamp) : List LogLine × Ending :=
  let (lines, outcome) := o.launch files interfaces
  let (lines, ending) : List LogLine × Ending :=
    match outcome with
    | .error e => (lines, .failure e)
    | .ok l => (lines ++ l.runToEnd commit now now time, .success "")
  (lines.filter fun l => l.isWritten o.logLevel, ending)

end GaleraProxy.Cli
