import GaleraProxy.Cli.FileTree
import GaleraProxy.Cli.Launch
import Std.Time.DateTime.Timestamp

/-!
# The program

The outer layer reads the arguments, the environment, the files and the clocks, and writes what the
library says. It has no sockets: nobody can be reached from here, and no client comes in.
-/

namespace GaleraProxy.Program

open Cli

/-- Nobody can be reached. -/
def network : Http.Uri → Http.Exchange := fun _ => .unreachable

/-- Every address can be listened at, as far as is known. -/
def interfaces : Interfaces := ⟨fun _ => true, []⟩

/-- The build of the program. -/
def commit : String := "unknown"

/-- The number by which the system names an error; it may be given with the opposite sign. -/
def errorNumber : IO.Error → Option Nat
  | .noFileOrDirectory _ n _ | .inappropriateType _ n _ | .permissionDenied _ n _ =>
      some (if n.toNat ≤ Int32.maxValue.toInt.toNat then n.toNat else UInt32.size - n.toNat)
  | _ => none

/-- The words for an error of the system. -/
def errorText (e : IO.Error) : String :=
  match errorNumber e with
  | some 2 => FileTree.missingMessage
  | some 13 => "Permission denied (os error 13)"
  | some 20 => beyondFileMessage
  | some 21 => directoryMessage
  | _ => toString e

/-- What is at a path. -/
def stateOf (path : String) : IO FileState := do
  match ← (IO.FS.readBinFile path).toBaseIO with
  | .ok content => pure (.file content.toList)
  | .error e =>
      match errorNumber e with
      | some 2 => pure .missing
      | some 20 => pure .beyondFile
      | some 21 => pure .directory
      | _ => pure (.unreadable (errorText e))

/-- The files that an invocation looks at. Whether a file can be written is found out by writing it.
-/
def filesOf (paths : List String) : IO Files := do
  let states ← paths.mapM fun path => do pure (path, ← stateOf path)
  pure ⟨fun path => (states.lookup path).getD .missing, fun _ => none⟩

/-- The time of day. -/
def timeOfDay : IO Timestamp := do
  let now ← Std.Time.Timestamp.now
  let nanos := now.toNanosecondsSinceUnixEpoch.val
  pure ⟨nanos.fdiv 1000000000, (nanos.fmod 1000000000).toNat⟩

/-- The moment on the monotonic clock. -/
def moment : IO Moment := IO.monoNanosNow

/-- Write lines of the log. -/
def writeLines (format : LogFormat) (level : LogLevel) (lines : List LogLine) : IO Unit := do
  let out ← IO.getStdout
  for line in lines.filter fun l => l.isWritten level do
    let time ← timeOfDay
    match format with
    | .json => out.putStrLn (line.toTimedJson time).render
    | .pretty => out.putStrLn (line.toText time)
  out.flush

/-- Leave behind what a command leaves behind. -/
def conclude (e : Ending) : IO UInt32 := do
  let refused ← match e.written with
    | none => pure none
    | some (path, content) =>
        match ← (IO.FS.writeFile path content).toBaseIO with
        | .ok () => pure none
        | .error fault => pure (some (Ending.failure (.inputOutput (errorText fault))))
  let e := refused.getD e
  (← IO.getStdout).putStr e.output
  (← IO.getStderr).putStr e.complaints
  pure e.status.toUInt32

/-- Let a service go on for as long as the program lives. -/
partial def live (format : LogFormat) (level : LogLevel) (s : Service) : IO Unit := do
  let now ← moment
  let (s, effects) := s.advance network now (← timeOfDay)
  writeLines format level (LogLine.ofEffects effects)
  let next := s.dueMoments.foldl min (now + 1000000000)
  IO.sleep (UInt32.ofNat ((next - (← moment)) / 1000000 + 1))
  live format level s

/-- Run the service. -/
def run (o : RunOptions) (files : Files) : IO UInt32 := do
  let format := LogFormat.resolve o (← (← IO.getStdout).isTty)
  let (lines, outcome) := o.launch files interfaces
  writeLines format o.logLevel lines
  match outcome with
  | .error e => conclude (.failure e)
  | .ok launch => do
      let s := launch.service (← moment)
      writeLines format o.logLevel (s.startLines launch.config commit launch.listening)
      live format o.logLevel s
      pure 0

end GaleraProxy.Program

open GaleraProxy GaleraProxy.Program

/-- Do what the command line asks for. -/
def main (args : List String) : IO UInt32 := do
  let values ← Cli.Invocation.envNames.mapM fun name => do pure (name, ← IO.getEnv name)
  let invocation := Cli.Invocation.read (fun name => (values.lookup name).join) args
  let files ← filesOf invocation.paths
  match invocation with
  | .command (.run o) => run o files
  | other => conclude (other.ending files network Cli.helpText)
