import SceneRenderer.Listing.Report

/-!
The arguments of the command line: a command, a scene file, and options of the command. Options
may stand anywhere, take their value after an equals sign or from the next argument, and occur at
most once; short flags may be joined.
-/

set_option autoImplicit false
set_option relaxedAutoImplicit false

namespace SceneRenderer.CommandLine

inductive Command
  | dump
  | keys
deriving Repr, DecidableEq, Inhabited

/-- What to explain. -/
inductive Topic
  | program
  | command (command : Command)
  /-- The command that explains the others. -/
  | help
deriving Repr, DecidableEq, Inhabited

inductive Flag
  | config
  | verbose
  | stage
  | drawable
  | help
deriving Repr, DecidableEq, Inhabited

namespace Flag

def long : Flag → String
  | config => "config"
  | verbose => "verbose"
  | stage => "stage"
  | drawable => "drawable"
  | help => "help"

def short : Flag → Char
  | config => 'c'
  | verbose => 'v'
  | stage => 's'
  | drawable => 'd'
  | help => 'h'

def takesValue : Flag → Bool
  | config | stage | drawable => true
  | verbose | help => false

end Flag

def Command.flags : Command → List Flag
  | .dump => [.config, .stage, .drawable, .help]
  | .keys => [.config, .verbose, .help]

inductive UsageError
  | unexpected (argument : String)
  | unknownCommand (name : String)
  | missingCommand
  | missingScene
  | missingValue (flag : Flag)
  | invalidValue (flag : Flag) (value : String)
  | repeated (flag : Flag)
deriving Repr, DecidableEq, Inhabited

def UsageError.message : UsageError → String
  | unexpected argument => "unexpected argument '" ++ argument ++ "' found"
  | unknownCommand name => "unrecognized subcommand '" ++ name ++ "'"
  | missingCommand => "a subcommand is required"
  | missingScene => "the following required arguments were not provided: <SCENE>"
  | missingValue flag => "a value is required for '--" ++ flag.long ++ "' but none was supplied"
  | invalidValue flag value => "invalid value '" ++ value ++ "' for '--" ++ flag.long ++ "'"
  | repeated flag => "the argument '--" ++ flag.long ++ "' cannot be used multiple times"

/-- The options of a command as they are given. -/
structure Settings where
  scene : Option String
  config : Option String
  verbose : Bool
  stage : Option StageChoice
  drawable : Option UInt32
deriving Repr, DecidableEq, Inhabited

def Settings.none : Settings := ⟨.none, .none, false, .none, .none⟩

inductive Listing
  | dump (stage : StageChoice) (drawable : Option UInt32)
  | keys (verbose : Bool)
deriving Repr, DecidableEq, Inhabited

structure Request where
  scene : String
  config : Option String
  listing : Listing
deriving Repr, DecidableEq, Inhabited

inductive Invocation
  | list (request : Request)
  | explain (topic : Topic)
  | version
  | refuse (error : UsageError)
deriving Repr, DecidableEq, Inhabited

def stageChoice? : String → Option StageChoice
  | "vertex" => some .vertex
  | "fragment" => some .fragment
  | "both" => some .both
  | _ => none

/-- A word in decimal digits, with or without a sign. -/
def word? (text : String) : Option UInt32 :=
  let (negative, digits) :=
    match text.toList with
    | '-' :: digits => (true, digits)
    | '+' :: digits => (false, digits)
    | digits => (false, digits)
  if digits.isEmpty || !digits.all Char.isDigit then none
  else
    let n := digits.foldl (fun n c => n * 10 + (c.toNat - '0'.toNat)) 0
    if n < UInt32.size && (!negative || n == 0) then some (UInt32.ofNat n) else none

namespace Settings

def setScene (s : Settings) (path : String) : Except UsageError Settings :=
  if path.isEmpty then .error .missingScene
  else if s.scene.isSome then .error (.unexpected path)
  else .ok { s with scene := some path }

def setValue (s : Settings) (flag : Flag) (value : String) : Except UsageError Settings :=
  match flag with
  | .config =>
    if s.config.isSome then .error (.repeated flag)
    else if value.isEmpty then .error (.missingValue flag)
    else .ok { s with config := some value }
  | .stage =>
    if s.stage.isSome then .error (.repeated flag)
    else
      match stageChoice? value with
      | some stage => .ok { s with stage := some stage }
      | .none => .error (.invalidValue flag value)
  | .drawable =>
    if s.drawable.isSome then .error (.repeated flag)
    else
      match word? value with
      | some drawable => .ok { s with drawable := some drawable }
      | .none => .error (.invalidValue flag value)
  | .verbose | .help => .error (.unexpected value)

def raise (s : Settings) (flag : Flag) : Except UsageError Settings :=
  if s.verbose then .error (.repeated flag) else .ok { s with verbose := true }

end Settings

/-- What is read from one argument. -/
inductive Reading
  | settings (settings : Settings)
  /-- The next argument is the value of a flag. -/
  | awaiting (flag : Flag) (settings : Settings)
  | help
  | error (error : UsageError)
deriving Repr, DecidableEq, Inhabited

def Reading.ofExcept : Except UsageError Settings → Reading
  | .ok s => settings s
  | .error e => .error e

/-- A long flag with its value, if that is attached. -/
def readLong (command : Command) (s : Settings) (argument name : String) (value : Option String) :
    Reading :=
  match command.flags.find? (·.long == name), value with
  | none, _ => .error (.unexpected argument)
  | some flag, some value =>
    if flag.takesValue then .ofExcept (s.setValue flag value) else .error (.unexpected argument)
  | some flag, none =>
    if flag.takesValue then .awaiting flag s
    else if flag = .help then .help
    else .ofExcept (s.raise flag)

/-- Joined short flags; what follows one that takes a value is its value. -/
def readShort (command : Command) (argument : String) (s : Settings) : List Char → Reading
  | [] => .settings s
  | c :: rest =>
    match command.flags.find? (·.short == c) with
    | none => .error (.unexpected argument)
    | some flag =>
      if flag.takesValue then
        match rest with
        | [] => .awaiting flag s
        | '=' :: value => .ofExcept (s.setValue flag (String.ofList value))
        | value => .ofExcept (s.setValue flag (String.ofList value))
      else if flag = .help then .help
      else
        match s.raise flag with
        | .ok s => readShort command argument s rest
        | .error e => .error e

/-- The text before and after the first equals sign. -/
def splitEquals (text : List Char) : String × Option String :=
  let name := String.ofList (text.takeWhile (· != '='))
  match text.dropWhile (· != '=') with
  | [] => (name, none)
  | _ :: value => (name, some (String.ofList value))

def readArgument (command : Command) (s : Settings) (argument : String) : Reading :=
  match argument.toList with
  | '-' :: '-' :: text => readLong command s argument (splitEquals text).1 (splitEquals text).2
  | '-' :: c :: rest => readShort command argument s (c :: rest)
  | _ => .ofExcept (s.setScene argument)

/-- Whether an argument starts a flag, so that it is no value. -/
def isFlag (argument : String) : Bool :=
  match argument.toList with
  | '-' :: _ :: _ => true
  | _ => false

/-- Arguments after two dashes, which are no flags. -/
def readScenes (s : Settings) (arguments : List String) : Reading :=
  .ofExcept (arguments.foldlM Settings.setScene s)

/-- Reads the arguments of a command; a flag may be waiting for its value. -/
def readArguments (command : Command) : Option Flag → Settings → List String → Reading
  | none, s, [] => .settings s
  | some flag, _, [] => .error (.missingValue flag)
  | some flag, s, argument :: rest =>
    if isFlag argument then .error (.missingValue flag)
    else
      match s.setValue flag argument with
      | .ok s => readArguments command none s rest
      | .error e => .error e
  | none, s, argument :: rest =>
    if argument = "--" then readScenes s rest
    else
      match readArgument command s argument with
      | .settings s => readArguments command none s rest
      | .awaiting flag s => readArguments command (some flag) s rest
      | stop => stop

def request (command : Command) (s : Settings) : Invocation :=
  match s.scene with
  | none => .refuse .missingScene
  | some scene =>
    let listing :=
      match command with
      | .dump => Listing.dump (s.stage.getD .both) s.drawable
      | .keys => Listing.keys s.verbose
    .list ⟨scene, s.config, listing⟩

def commandInvocation (command : Command) (arguments : List String) : Invocation :=
  match readArguments command none .none arguments with
  | .settings s => request command s
  | .awaiting flag _ => .refuse (.missingValue flag)
  | .help => .explain (.command command)
  | .error e => .refuse e

/-- What the help command is asked to explain. -/
def helpInvocation : List String → Invocation
  | [] => .explain .program
  | ["dump"] => .explain (.command .dump)
  | ["keys"] => .explain (.command .keys)
  | ["help"] => .explain .help
  | name :: _ => .refuse (.unknownCommand name)

/-- Reads the whole command line. -/
def invocation : List String → Invocation
  | [] => .refuse .missingCommand
  | "dump" :: rest => commandInvocation .dump rest
  | "keys" :: rest => commandInvocation .keys rest
  | "help" :: rest => helpInvocation rest
  | "--help" :: _ => .explain .program
  | "--version" :: _ => .version
  | argument :: _ =>
    match argument.toList with
    | '-' :: 'h' :: _ => .explain .program
    | '-' :: 'V' :: _ => .version
    | '-' :: _ => .refuse (.unexpected argument)
    | _ => .refuse (.unknownCommand argument)

end SceneRenderer.CommandLine
