/-!
# Arguments on a command line

A command takes flags, options with a value, and values at positions. `Grammar.read` takes the words
of a command line in turn: a word that begins with a dash names a flag or an option, the word after
an option is its value, and after a double dash all words are values. The value of an option is
looked at when the next argument is complete, so that a word that means nothing is complained about
before it.
-/

namespace GaleraProxy.Cli

/-- The values that an argument accepts. -/
inductive Values where
  | text
  | path
  | choice (names : List String)
  deriving DecidableEq, Repr

/-- How an argument is written: as a flag, as an option with a value, or as a value at its position.
-/
inductive Form where
  | flag
  | option (values : Values)
  | positional (values : Values)
  deriving DecidableEq, Repr

/-- An argument. Its name is written after two dashes, its letter after one, and a variable of the
environment may stand for it. -/
structure Argument where
  name : String
  letter : Option Char
  form : Form
  envName : Option String
  deriving DecidableEq, Repr

namespace Argument

/-- The name of an argument's value. -/
def valueName (a : Argument) : String := a.name.map fun c => if c == '-' then '_' else c.toUpper

/-- How an argument is shown. -/
def shown (a : Argument) : String :=
  match a.form with
  | .flag => "--" ++ a.name
  | .option _ => "--" ++ a.name ++ " <" ++ a.valueName ++ ">"
  | .positional _ => "[" ++ a.valueName ++ "]"

/-- Whether an argument has a position. -/
def isPositional (a : Argument) : Bool :=
  match a.form with
  | .positional _ => true
  | .flag | .option _ => false

/-- The values that an argument accepts. A flag is switched on or off. -/
def values (a : Argument) : Values :=
  match a.form with
  | .flag => .choice ["true", "false"]
  | .option values | .positional values => values

end Argument

/-- What is wrong with a command line. -/
inductive Fault where
  | unknownArgument (word : String)
  | unknownCommand (word : String)
  | unexpectedValue (value : String) (a : Argument)
  | missingValue (a : Argument)
  | invalidValue (value : String) (a : Argument)
  | repeated (a : Argument)
  | conflict (a other : Argument)
  deriving DecidableEq, Repr

/-- A word in quotes. -/
def inQuotes (word : String) : String := "'" ++ word ++ "'"

/-- What the user is told about a fault. -/
def Fault.message : Fault → String
  | unknownArgument word => "unexpected argument " ++ inQuotes word ++ " found"
  | unknownCommand word => "unrecognized subcommand " ++ inQuotes word
  | unexpectedValue value a =>
      "unexpected value " ++ inQuotes value ++ " for " ++ inQuotes a.shown
        ++ " found; no more were expected"
  | missingValue a => "a value is required for " ++ inQuotes a.shown ++ " but none was supplied"
  | invalidValue value a => "invalid value " ++ inQuotes value ++ " for " ++ inQuotes a.shown
  | repeated a => "the argument " ++ inQuotes a.shown ++ " cannot be used multiple times"
  | conflict a other =>
      "the argument " ++ inQuotes a.shown ++ " cannot be used with " ++ inQuotes other.shown

/-- Why reading stops before the end: help or the version is asked for, or there is a fault. -/
inductive Stop where
  | help
  | version
  | fault (f : Fault)
  deriving DecidableEq, Repr

/-- The flag that asks for help. -/
def helpFlag : Argument := ⟨"help", some 'h', .flag, none⟩

/-- The flag that asks for the version. -/
def versionFlag : Argument := ⟨"version", some 'V', .flag, none⟩

/-- What a command takes: its arguments, the names of arguments that exclude each other, and the
commands below it. -/
structure Grammar where
  name : String
  arguments : List Argument
  exclusive : List (String × String)
  commands : List String
  deriving DecidableEq, Repr

/-- How far a command line has been read: the arguments with their values, an argument whose value
has not been looked at, whether the next word is its value, how many positions are taken, and
whether only values follow. -/
structure Reading where
  given : List (Argument × String)
  pending : Option (Argument × Option String)
  awaiting : Bool
  positions : Nat
  onlyValues : Bool
  deriving DecidableEq, Repr

/-- Nothing read yet. -/
def Reading.start : Reading := ⟨[], none, false, 0, false⟩

/-- Look at the value of an argument. -/
def Argument.accept (a : Argument) (value : String) : Except Stop Unit :=
  match a.values with
  | .text => .ok ()
  | .path => if value.isEmpty then .error (.fault (.missingValue a)) else .ok ()
  | .choice names =>
      if names.contains value then .ok ()
      else if value.isEmpty then .error (.fault (.missingValue a))
      else .error (.fault (.invalidValue value a))

namespace Reading

/-- Whether an argument has been given. -/
def has (r : Reading) (a : Argument) : Bool := r.given.any fun g => g.1 == a

/-- Take in an argument with its value, which a flag has not. -/
def give (r : Reading) (a : Argument) (value : Option String) : Except Stop Reading :=
  if a = helpFlag then .error .help
  else if a = versionFlag then .error .version
  else
    let value := if a.form = .flag then some "true" else value
    match value with
    | none => .error (.fault (.missingValue a))
    | some value =>
        if r.has a then .error (.fault (.repeated a))
        else do
          a.accept value
          pure { r with given := r.given ++ [(a, value)], awaiting := false }

/-- Look at the value of the argument that waits for it. -/
def resolve (r : Reading) : Except Stop Reading :=
  match r.pending with
  | none => .ok r
  | some (a, value) => ({ r with pending := none }).give a value

/-- Take in an argument after the one that waits. -/
def take (r : Reading) (a : Argument) (value : Option String) : Except Stop Reading := do
  (← r.resolve).give a value

/-- Wait for the value of an option. -/
def await (r : Reading) (a : Argument) : Except Stop Reading := do
  pure { ← r.resolve with pending := some (a, none), awaiting := true }

/-- The value of an argument by its name. -/
def value? (r : Reading) (name : String) : Option String :=
  (r.given.find? fun g => g.1.name == name).map (·.2)

/-- Whether a flag is switched on. -/
def isOn (r : Reading) (name : String) : Bool := r.value? name == some "true"

end Reading

namespace Grammar

/-- The arguments that are written with a dash. -/
def dashed (g : Grammar) : List Argument :=
  g.arguments.filter (fun a => !a.isPositional) ++ [helpFlag, versionFlag]

/-- The arguments that have a position. -/
def positionals (g : Grammar) : List Argument := g.arguments.filter Argument.isPositional

/-- Read what follows two dashes. -/
def readName (g : Grammar) (r : Reading) (text : List Char) : Except Stop Reading :=
  let name := String.ofList (text.takeWhile (· ≠ '='))
  let attached := match text.dropWhile (· ≠ '=') with
    | [] => none
    | _ :: value => some (String.ofList value)
  match g.dashed.find? fun a => a.name == name with
  | none => .error (.fault (.unknownArgument ("--" ++ name)))
  | some a =>
      match decide (a.form = .flag), attached with
      | true, some value => .error (.fault (.unexpectedValue value a))
      | false, none => r.await a
      | _, value => r.take a value

/-- Read what follows one dash: the letters of flags, and at last the letter of an option, to which
its value may be attached. -/
def readLetters (g : Grammar) (r : Reading) : List Char → Except Stop Reading
  | [] => .ok r
  | c :: rest =>
      match g.dashed.find? fun a => a.letter == some c with
      | none => .error (.fault (.unknownArgument ("-" ++ c.toString)))
      | some a =>
          if a.form = .flag then do readLetters g (← r.take a none) rest
          else
            match rest with
            | [] => r.await a
            | '=' :: value | value => r.take a (some (String.ofList value))

/-- Read a value at the next position. -/
def readValue (g : Grammar) (r : Reading) (word : String) : Except Stop Reading :=
  match g.positionals[r.positions]? with
  | some a => do
      pure { ← r.resolve with
        pending := some (a, some word), awaiting := false, positions := r.positions + 1 }
  | none =>
      if g.commands.isEmpty || (r.onlyValues && g.commands.contains word) then
        .error (.fault (.unknownArgument word))
      else .error (.fault (.unknownCommand word))

/-- Read a word that may be the value of the option before it. -/
def readFree (g : Grammar) (r : Reading) (word : String) : Except Stop Reading :=
  match r.awaiting, r.pending with
  | true, some (a, _) => .ok { r with pending := some (a, some word), awaiting := false }
  | _, _ => g.readValue r word

/-- Read one word. -/
def readWord (g : Grammar) (r : Reading) (word : String) : Except Stop Reading :=
  if r.onlyValues then g.readValue r word
  else
    match word.toList with
    | ['-', '-'] => .ok { r with onlyValues := true }
    | '-' :: '-' :: text => g.readName r text
    | ['-'] => g.readFree r word
    | '-' :: letters => g.readLetters r letters
    | _ => g.readFree r word

/-- Read words up to the name of a command below, which is returned with the words after it. -/
def readWords (g : Grammar) :
    List String → Reading → Except Stop (Reading × Option (String × List String))
  | [], r => do pure (← r.resolve, none)
  | word :: words, r =>
      if !r.onlyValues && !r.awaiting && g.commands.contains word then .ok (r, some (word, words))
      else do readWords g words (← g.readWord r word)

/-- Let the environment speak for an argument that was not given. -/
def consult (environment : String → Option String) (r : Reading) (a : Argument) :
    Except Stop Reading :=
  match a.envName.bind environment with
  | none => .ok r
  | some value =>
      if r.has a then .ok r
      else do
        a.accept value
        pure { r with given := r.given ++ [(a, value)] }

/-- The first argument given that another one excludes. -/
def conflict? (g : Grammar) (r : Reading) : Option Fault :=
  r.given.findSome? fun (a, _) =>
    (r.given.find? fun (b, _) =>
      g.exclusive.contains (a.name, b.name) || g.exclusive.contains (b.name, a.name)).map
        fun (b, _) => .conflict a b

/-- Read the words of a command without commands below it. -/
def read (g : Grammar) (environment : String → Option String) (words : List String) :
    Except Stop Reading := do
  let (r, _) ← g.readWords words .start
  let r ← g.arguments.foldlM (consult environment) r
  match g.conflict? r with
  | some fault => .error (.fault fault)
  | none => pure r

end Grammar

end GaleraProxy.Cli
