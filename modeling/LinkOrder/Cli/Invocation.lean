/-
Invocations of the program: the command with its arguments, and what may
be asked for with any command. Arguments are checked against the files
before anything is read, and the configuration of a command is that of
its file, or the default, with the changes that the arguments ask for.
-/
import LinkOrder.Inputs

namespace LinkOrder.Cli

/-- What may be asked for with any command. -/
structure GlobalArguments where
  logLevel : Option String := none
  logFile : Option String := none
  quiet : Bool := false
  noColor : Bool := false
deriving DecidableEq, Repr, Inhabited

/-- The link map of a command, and the configuration that goes with it. -/
structure MapArguments where
  linkMap : String
  config : Option String := none
  excludedLibraries : List String := []
  noDefaultExclusions : Bool := false
deriving DecidableEq, Repr, Inhabited

/-- Writes an order file. -/
structure GenerateArguments where
  map : MapArguments
  capture : String
  output : String := "order_file.txt"
  sortRemaining : Bool := false
  noProgress : Bool := false
deriving DecidableEq, Repr, Inhabited

/-- Prints the symbols of a capture. -/
structure ResolveArguments where
  map : MapArguments
  capture : String
  qualified : Bool := false
deriving DecidableEq, Repr, Inhabited

/-- Lists the addresses of a table. -/
structure AddressesArguments where
  map : MapArguments
  output : Option String := none
deriving DecidableEq, Repr, Inhabited

/-- Sums up a link map. -/
structure StatsArguments where
  map : MapArguments
  collisions : Bool := false
deriving DecidableEq, Repr, Inhabited

/-- A command with its arguments. -/
inductive Command where
  | generate (arguments : GenerateArguments)
  | resolve (arguments : ResolveArguments)
  | addresses (arguments : AddressesArguments)
  | stats (arguments : StatsArguments)
deriving DecidableEq, Repr, Inhabited

/-- What the program was asked to do. -/
structure Invocation where
  command : Command
  globals : GlobalArguments
deriving DecidableEq, Repr, Inhabited

/-- The name of a command. -/
def Command.name : Command → String
  | generate _ => "generate"
  | resolve _ => "resolve"
  | addresses _ => "addresses"
  | stats _ => "stats"

/-- The link map of a command. -/
def Command.map : Command → MapArguments
  | generate arguments => arguments.map
  | resolve arguments => arguments.map
  | addresses arguments => arguments.map
  | stats arguments => arguments.map

-- ============================================================ validity

/-- Why arguments do not fit the files. -/
inductive ArgumentError where
  | noLinkMap (path : String)
  | noConfig (path : String)
  | noCapture (path : String)
  | outputIsDirectory (path : String)
deriving DecidableEq, Repr

/-- What is said about arguments that do not fit. -/
def ArgumentError.message : ArgumentError → String
  | noLinkMap path => "Link map does not exist: " ++ Text.quoted path
  | noConfig path => "Config file does not exist: " ++ Text.quoted path
  | noCapture path => "Capture file does not exist: " ++ Text.quoted path
  | outputIsDirectory path =>
      "Output path is a directory: " ++ Text.quoted path

variable {m : Type → Type} [Monad m] [Host m]

/-- Accepts a path at which something stands. -/
def demand (path : String) (missing : String → ArgumentError) :
    ExceptT ArgumentError m Unit := do
  if !(← perform (Host.occupied path)) then throw (missing path)

/-- Accepts a link map and a configuration that are there. -/
def MapArguments.validate (arguments : MapArguments) :
    ExceptT ArgumentError m Unit := do
  demand arguments.linkMap .noLinkMap
  match arguments.config with
  | some path => demand path .noConfig
  | none => return

/-- Accepts inputs that are there and an output that is no directory. -/
def GenerateArguments.validate (arguments : GenerateArguments) :
    ExceptT ArgumentError m Unit := do
  arguments.map.validate
  demand arguments.capture .noCapture
  if (← perform (Host.kind? arguments.output)) = some .directory then
    throw (.outputIsDirectory arguments.output)

/-- Accepts inputs that are there. -/
def ResolveArguments.validate (arguments : ResolveArguments) :
    ExceptT ArgumentError m Unit := do
  arguments.map.validate
  demand arguments.capture .noCapture

/-- Accepts arguments that fit the files. -/
def Command.validate : Command → ExceptT ArgumentError m Unit
  | generate arguments => arguments.validate
  | resolve arguments => arguments.validate
  | addresses arguments => arguments.map.validate
  | stats arguments => arguments.map.validate

-- ====================================================== configuration

/-- A configuration with the exclusions that the arguments ask for. -/
def MapArguments.adapt (arguments : MapArguments) (config : Config) :
    Config :=
  let base :=
    if arguments.noDefaultExclusions then config.withoutExclusions
    else config
  arguments.excludedLibraries.foldl Config.exclude base

/-- The configuration of a command, which must be valid. -/
def MapArguments.resolveConfig (arguments : MapArguments) :
    ExceptT Config.Error m Config := do
  let base ←
    match arguments.config with
    | some path => Config.load path
    | none => pure {}
  let config := arguments.adapt base
  attempt .invalid (pure config.validate)
  return config

/-- A configuration with the order that the arguments ask for. -/
def GenerateArguments.adapt (arguments : GenerateArguments)
    (config : Config) : Config :=
  if arguments.sortRemaining then { config with remainingOrder := .address }
  else config

/-- The configuration by which an order file is generated. -/
def GenerateArguments.resolveConfig (arguments : GenerateArguments) :
    ExceptT Config.Error m Config := do
  return arguments.adapt (← arguments.map.resolveConfig)

/-- The configuration of a command. -/
def Command.resolveConfig : Command → ExceptT Config.Error m Config
  | generate arguments => arguments.resolveConfig
  | resolve arguments => arguments.map.resolveConfig
  | addresses arguments => arguments.map.resolveConfig
  | stats arguments => arguments.map.resolveConfig

/-- The name of the level of records: the one asked for, else that of the
configuration file, else the default. -/
def Invocation.logLevel (invocation : Invocation) : m String := do
  match invocation.globals.logLevel, invocation.command.map.config with
  | some level, _ => return level
  | none, some path => return (← Config.loadOrDefault path).logLevel
  | none, none => return ({} : Config).logLevel

end LinkOrder.Cli
