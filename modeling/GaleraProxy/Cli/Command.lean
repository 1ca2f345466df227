import GaleraProxy.Cli.Argument
import GaleraProxy.Config.Parse
import GaleraProxy.Event
import GaleraProxy.Version

/-!
# The commands

The program runs the proxy, writes a starter configuration, validates a configuration, or asks a
running instance for its health. `Invocation.read` takes the words of the command line to what is
asked for.
-/

namespace GaleraProxy

/-- The name of a level on the command line. -/
def LogLevel.name : LogLevel → String
  | trace => "trace"
  | debug => "debug"
  | info => "info"
  | warn => "warn"
  | error => "error"

/-- All levels, the least important first. -/
def LogLevel.all : List LogLevel := [trace, debug, info, warn, error]

/-- The notations of configuration files in the order in which they are offered. -/
def ConfigFormat.all : List ConfigFormat := [yaml, json, toml]

namespace Cli

/-- How to run the proxy. -/
structure RunOptions where
  config : Option String
  logLevel : LogLevel
  pretty : Bool
  json : Bool
  noMetrics : Bool
  apiUsername : Option String
  apiPassword : Option String
  deriving DecidableEq, Repr

/-- How to write a starter configuration. -/
structure InitOptions where
  format : ConfigFormat
  output : Option String
  full : Bool
  force : Bool
  deriving DecidableEq, Repr

/-- How the result of a validation is reported. -/
inductive ReportFormat where
  | text
  | json
  deriving DecidableEq, Repr

/-- How to validate a configuration. -/
structure ValidateOptions where
  config : String
  format : ReportFormat
  deriving DecidableEq, Repr

/-- How to ask an instance for its health. -/
structure HealthOptions where
  url : String
  json : Bool
  deriving DecidableEq, Repr

/-- A command with its options. Without a command there is a welcome. -/
inductive Command where
  | welcome
  | run (options : RunOptions)
  | init (options : InitOptions)
  | validate (options : ValidateOptions)
  | health (options : HealthOptions)
  deriving DecidableEq, Repr

/-- What a command line asks for. Help and version are those of the program or of one of its
commands. -/
inductive Invocation where
  | command (c : Command)
  | help (name : String)
  | version (name : String)
  | refused (f : Fault)
  deriving DecidableEq, Repr

/-- The name of a command below the program, as its version is shown under. -/
def commandName (name : String) : String := programName ++ "-" ++ name

/-- The arguments of `run`. -/
def runGrammar : Grammar where
  name := commandName "run"
  arguments :=
    [⟨"config", some 'c', .option .path, some "CONFIG_FILE"⟩,
     ⟨"log-level", some 'l', .option (.choice (LogLevel.all.map LogLevel.name)), some "LOG_LEVEL"⟩,
     ⟨"pretty", none, .flag, none⟩,
     ⟨"json", none, .flag, none⟩,
     ⟨"no-metrics", none, .flag, some "DISABLE_METRICS"⟩,
     ⟨"api-username", none, .option .text, some "SWITCHBOARD_API_USERNAME"⟩,
     ⟨"api-password", none, .option .text, some "SWITCHBOARD_API_PASSWORD"⟩]
  exclusive := [("json", "pretty")]
  commands := []

/-- The arguments of `init`. -/
def initGrammar : Grammar where
  name := commandName "init"
  arguments :=
    [⟨"format", some 'f', .option (.choice (ConfigFormat.all.map ConfigFormat.extension)), none⟩,
     ⟨"output", some 'o', .option .path, none⟩,
     ⟨"full", none, .flag, none⟩,
     ⟨"force", none, .flag, none⟩]
  exclusive := []
  commands := []

/-- The arguments of `validate`. -/
def validateGrammar : Grammar where
  name := commandName "validate"
  arguments :=
    [⟨"config", none, .positional .path, none⟩,
     ⟨"format", none, .option (.choice ["text", "json"]), none⟩]
  exclusive := []
  commands := []

/-- The arguments of `health`. -/
def healthGrammar : Grammar where
  name := commandName "health"
  arguments :=
    [⟨"url", none, .positional .text, none⟩,
     ⟨"json", none, .flag, none⟩]
  exclusive := []
  commands := []

/-- The commands in the order in which they are offered. -/
def commandGrammars : List (String × Grammar) :=
  [("run", runGrammar), ("init", initGrammar), ("validate", validateGrammar),
   ("health", healthGrammar)]

/-- The command that shows help. -/
def helpCommand : String := "help"

/-- The arguments of the program itself. -/
def programGrammar : Grammar where
  name := programName
  arguments := []
  exclusive := []
  commands := commandGrammars.map (·.1) ++ [helpCommand]

/-- The options of `run`. -/
def RunOptions.ofReading (r : Reading) : RunOptions :=
  { config := r.value? "config"
    logLevel := (LogLevel.all.find? fun l => r.value? "log-level" == some l.name).getD .info
    pretty := r.isOn "pretty", json := r.isOn "json", noMetrics := r.isOn "no-metrics"
    apiUsername := r.value? "api-username", apiPassword := r.value? "api-password" }

/-- The options of `init`. -/
def InitOptions.ofReading (r : Reading) : InitOptions :=
  { format := (ConfigFormat.all.find? fun f => r.value? "format" == some f.extension).getD .yaml
    output := r.value? "output", full := r.isOn "full", force := r.isOn "force" }

/-- The options of `validate`. -/
def ValidateOptions.ofReading (r : Reading) : ValidateOptions :=
  { config := (r.value? "config").getD "switchboard.yaml"
    format := if r.value? "format" = some "json" then .json else .text }

/-- The options of `health`. -/
def HealthOptions.ofReading (r : Reading) : HealthOptions :=
  { url := (r.value? "url").getD "http://localhost:8080", json := r.isOn "json" }

/-- A command from its arguments. -/
def Command.ofReading (name : String) (r : Reading) : Command :=
  match name with
  | "run" => .run (.ofReading r)
  | "init" => .init (.ofReading r)
  | "validate" => .validate (.ofReading r)
  | "health" => .health (.ofReading r)
  | _ => .welcome

/-- The line of an argument in the help. -/
def Argument.helpLine (a : Argument) : String :=
  "  " ++ (match a.letter with
    | some c => "-" ++ c.toString ++ ", "
    | none => "") ++ a.shown ++ "\n"

/-- The help for the program or for one of its commands: its arguments and the commands below it. -/
def helpText (name : String) : String :=
  let grammar := ((commandGrammars.map (·.2)).find? fun g => g.name == name).getD programGrammar
  "Usage: " ++ name ++ "\n"
    ++ String.join (grammar.commands.map fun c => "  " ++ c ++ "\n")
    ++ String.join ((grammar.positionals ++ grammar.dashed).map Argument.helpLine)

namespace Invocation

/-- What is asked for where reading stopped in a command. -/
def ofStop (name : String) : Stop → Invocation
  | .help => .help name
  | .version => .version name
  | .fault f => .refused f

/-- Help for the command that words name. -/
def readHelp : List String → Invocation
  | [] => .help programName
  | word :: words =>
      if programGrammar.commands.contains word then
        match words with
        | [] => .help (commandName word)
        | other :: _ => .refused (.unknownCommand other)
      else .refused (.unknownCommand word)

/-- What the words of a command line ask for in an environment. -/
def read (environment : String → Option String) (words : List String) : Invocation :=
  match programGrammar.readWords words .start with
  | .error stop => ofStop programName stop
  | .ok (_, none) => .command .welcome
  | .ok (_, some (name, words)) =>
      match commandGrammars.lookup name with
      | none => readHelp words
      | some grammar =>
          match grammar.read environment words with
          | .error stop => ofStop grammar.name stop
          | .ok r => .command (.ofReading name r)

/-- The variables of the environment that may speak for arguments. -/
def envNames : List String :=
  (commandGrammars.flatMap fun g => g.2.arguments).filterMap Argument.envName

end Invocation

end Cli

end GaleraProxy
