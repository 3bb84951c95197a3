/-!
# Command lines

A command line is a command with its words and options.  The option for the
configuration file may stand before or behind the command; if it stands in both
places, the one behind the command counts.  An option whose values are missing,
a word too many and anything unknown make the command line unusable.
-/

namespace TenantGuard.CommandLine

inductive Command where
  /-- Secure a store.  With entity names the store is an empty one in memory
  that holds only these entity types. -/
  | secure (offline : List String) (dryRun json : Bool)
  | compile (entity : String) (json : Bool)
  | classify (entities : List String)
  | check (json : Bool)
  deriving DecidableEq, Repr

structure Invocation where
  config : String
  command : Command
  deriving DecidableEq, Repr

inductive Request where
  | run (invocation : Invocation)
  | version
  | help
  deriving DecidableEq, Repr

inductive UsageError where
  | unexpected (argument : String)
  | missingValue (option : String)
  | repeated (option : String)
  | missingCommand
  | unknownCommand (name : String)
  | missingEntity
  deriving DecidableEq, Repr

namespace UsageError

def message : UsageError → String
  | .unexpected argument => s!"unexpected argument '{argument}' found"
  | .missingValue option => s!"a value is required for '{option}' but none was supplied"
  | .repeated option => s!"the argument '{option}' cannot be used multiple times"
  | .missingCommand => "a subcommand is required but one was not provided"
  | .unknownCommand name => s!"unrecognized subcommand '{name}'"
  | .missingEntity => "the following required arguments were not provided: <ENTITY>"

end UsageError

/-- Where an argument stands: before the command or behind it. -/
inductive Level where
  | top
  | secure
  | compile
  | classify
  | check
  deriving DecidableEq, Repr

inductive Flag where
  | json
  | dryRun
  deriving DecidableEq, Repr

namespace Flag

def all : List Flag := [.json, .dryRun]

def name : Flag → String
  | .json => "json"
  | .dryRun => "dry-run"

end Flag

namespace Level

def commands : List (String × Level) :=
  [("secure", .secure), ("compile", .compile), ("classify", .classify), ("check", .check)]

def takesFlag : Level → Flag → Bool
  | .secure, _ => true
  | .compile, .json => true
  | .check, .json => true
  | _, _ => false

def takesOffline (level : Level) : Bool :=
  level = .secure

def maxWords : Level → Option Nat
  | .top | .secure | .check => some 0
  | .compile => some 1
  | .classify => none

end Level

/-- An option that waits for its values: one path, or at least one entity name. -/
inductive Waiting where
  | config
  | offline (some : Bool)
  deriving DecidableEq, Repr

/-- The arguments of one level as far as they have been read. -/
structure Arguments where
  config : Option String := none
  flags : List Flag := []
  offline : List String := []
  words : List String := []
  waiting : Option Waiting := none
  wordsOnly : Bool := false

/-- What an argument leads to: reading goes on, or it ends at once. -/
inductive Progress where
  | reading (arguments : Arguments)
  | version
  | help

namespace Arguments

/-- Let an option go that waits for values; it has to have one. -/
def settle (arguments : Arguments) : Except UsageError Arguments :=
  match arguments.waiting with
  | some .config => .error (.missingValue "--config")
  | some (.offline false) => .error (.missingValue "--offline")
  | some (.offline true) | none => .ok { arguments with waiting := none }

/-- Set the configuration file, which is never the empty path. -/
def setConfig (path : String) (arguments : Arguments) : Except UsageError Arguments :=
  if path.isEmpty then .error (.missingValue "--config")
  else if arguments.config.isSome then .error (.repeated "--config")
  else .ok { arguments with config := some path, waiting := none }

def takeConfig (value : Option String) (arguments : Arguments) :
    Except UsageError Arguments := do
  let arguments ← arguments.settle
  match value with
  | some path => arguments.setConfig path
  | none => return { arguments with waiting := some .config }

def takeOffline (value : Option String) (arguments : Arguments) :
    Except UsageError Arguments := do
  let arguments ← arguments.settle
  match value with
  | some entity => return { arguments with offline := arguments.offline ++ [entity] }
  | none => return { arguments with waiting := some (.offline false) }

/-- Take a flag, which has no value and stands only once. -/
def takeFlag (flag : Flag) (value : Option String) (arguments : Arguments) :
    Except UsageError Arguments := do
  let arguments ← arguments.settle
  if value.isSome then .error (.unexpected ("--" ++ flag.name))
  else if arguments.flags.contains flag then .error (.repeated ("--" ++ flag.name))
  else return { arguments with flags := flag :: arguments.flags }

def takeWord (level : Level) (word : String) (arguments : Arguments) :
    Except UsageError Arguments := do
  let arguments ← arguments.settle
  if level.maxWords.all (arguments.words.length < ·) then
    return { arguments with words := arguments.words ++ [word] }
  else .error (.unexpected word)

/-- A name and the value behind the first equals sign, if there is one. -/
def splitValue (text : List Char) : String × Option String :=
  match text.dropWhile (· ≠ '=') with
  | '=' :: value => (String.ofList (text.takeWhile (· ≠ '=')), some (String.ofList value))
  | _ => (String.ofList text, none)

def takeLong (level : Level) (text : List Char) (arguments : Arguments) :
    Except UsageError Progress := do
  let (name, value) := splitValue text
  let unexpected := UsageError.unexpected ("--" ++ String.ofList text)
  if name = "config" then return .reading (← arguments.takeConfig value)
  else if name = "offline" && level.takesOffline then
    return .reading (← arguments.takeOffline value)
  else if name = "help" && value.isNone then
    let _ ← arguments.settle
    return .help
  else if name = "version" && level = .top && value.isNone then
    let _ ← arguments.settle
    return .version
  else
    match Flag.all.find? fun flag => flag.name = name && level.takesFlag flag with
    | some flag => return .reading (← arguments.takeFlag flag value)
    | none => .error unexpected

def takeShort (level : Level) (letter : Char) (text : List Char) (arguments : Arguments) :
    Except UsageError Progress := do
  -- a value may follow at once, with or without an equals sign
  let value := match text with
    | [] => none
    | '=' :: value => some (String.ofList value)
    | value => some (String.ofList value)
  if letter = 'c' then return .reading (← arguments.takeConfig value)
  else if letter = 'h' then
    let _ ← arguments.settle
    return .help
  else if letter = 'V' && level = .top then
    let _ ← arguments.settle
    return .version
  else .error (.unexpected ("-" ++ letter.toString))

def take (level : Level) (arguments : Arguments) (argument : String) :
    Except UsageError Progress := do
  if arguments.wordsOnly then
    return .reading (← arguments.takeWord level argument)
  else
    match argument.toList with
    | ['-', '-'] => return .reading { ← arguments.settle with wordsOnly := true }
    | '-' :: '-' :: text => arguments.takeLong level text
    | '-' :: letter :: text => arguments.takeShort level letter text
    | _ =>
        match arguments.waiting with
        | some .config => return .reading (← arguments.setConfig argument)
        | some (.offline _) =>
            return .reading { arguments with
              offline := arguments.offline ++ [argument], waiting := some (.offline true) }
        | none => return .reading (← arguments.takeWord level argument)

def command (level : Level) (arguments : Arguments) : Except UsageError Command :=
  let json := arguments.flags.contains .json
  match level, arguments.words with
  | .secure, _ =>
      .ok (.secure arguments.offline (arguments.flags.contains .dryRun) json)
  | .compile, entity :: _ => .ok (.compile entity json)
  | .classify, entity :: entities => .ok (.classify (entity :: entities))
  | .check, _ => .ok (.check json)
  | .compile, [] | .classify, [] => .error .missingEntity
  | .top, _ => .error .missingCommand

end Arguments

def defaultConfig : String := "tenantry.yaml"

/-- The configuration file of a command line: the one named behind the command,
or before it, or by the environment.  A level that names none looks into the
environment, where the path may not be empty either. -/
def configPath (environment : Option String) (outer inner : Arguments) :
    Except UsageError String :=
  if environment = some "" && (outer.config.isNone || inner.config.isNone) then
    .error (.missingValue "--config")
  else
    .ok ((inner.config <|> outer.config <|> environment).getD defaultConfig)

def readInner (environment : Option String) (level : Level) (outer inner : Arguments) :
    List String → Except UsageError Request
  | [] => do
      let inner ← inner.settle
      let config ← configPath environment outer inner
      let command ← inner.command level
      return .run { config, command }
  | argument :: rest => do
      match ← inner.take level argument with
      | .reading inner => readInner environment level outer inner rest
      | .version => return .version
      | .help => return .help

/-- The help of a command, or of the program.  Commands have no commands of
their own. -/
def readHelp : List String → Except UsageError Request
  | [] => .ok .help
  | name :: rest =>
      if name = "help" || (Level.commands.lookup name).isSome then
        match rest with
        | [] => .ok .help
        | inner :: _ => .error (.unknownCommand inner)
      else .error (.unknownCommand name)

/-- Read the arguments before the command.  A word that no option waits for is
the command. -/
def readOuter (environment : Option String) (outer : Arguments) :
    List String → Except UsageError Request
  | [] => do
      let _ ← outer.settle
      .error .missingCommand
  | argument :: rest => do
      let isCommand := outer.waiting.isNone && !outer.wordsOnly
      match Level.commands.lookup argument with
      | some level =>
          if isCommand then readInner environment level outer {} rest
          else readOn argument rest
      | none =>
          if isCommand && argument = "help" then readHelp rest
          else readOn argument rest
where
  /-- Take an argument that is no command. -/
  readOn (argument : String) (rest : List String) : Except UsageError Request := do
    match ← outer.take .top argument with
    | .reading outer => readOuter environment outer rest
    | .version => return .version
    | .help => return .help

/-- The environment may name the configuration file. -/
def Request.ofArguments (environment : Option String) (arguments : List String) :
    Except UsageError Request :=
  readOuter environment {} arguments

end TenantGuard.CommandLine
