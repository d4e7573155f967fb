/-
The options of the program, and what can be wrong with a command line.
Options are written long or, some of them, with one letter. Each command
has its own, next to those that stand with any command or in front of it.
-/

namespace LinkOrder.Cli

/-- The commands. -/
inductive CommandName where
  | generate
  | resolve
  | addresses
  | stats
deriving DecidableEq, Repr

/-- The commands by their names. -/
def CommandName.byName : List (String × CommandName) :=
  [("generate", generate), ("resolve", resolve),
    ("addresses", addresses), ("stats", stats)]

/-- The command that asks for help. -/
def helpCommand : String := "help"

/-- Why a command line is not carried out. -/
inductive UsageError where
  /-- An option without its value, or an empty path. -/
  | invalidValue
  /-- An option that is not known here, or a stray argument. -/
  | unknownArgument
  /-- An argument in the place of a command that is none. -/
  | invalidSubcommand
  /-- An option that must be given is not. -/
  | missingRequiredArgument
  /-- An option that is given twice. -/
  | argumentConflict
  /-- A value for an option that takes none. -/
  | tooManyValues
  /-- No command, but something else. -/
  | missingSubcommand
  /-- Nothing at all. -/
  | nothingGiven
  /-- Help is asked for. -/
  | help
  /-- The version is asked for. -/
  | version
deriving DecidableEq, Repr

/-- The name of a usage error. -/
def UsageError.name : UsageError → String
  | invalidValue => "InvalidValue"
  | unknownArgument => "UnknownArgument"
  | invalidSubcommand => "InvalidSubcommand"
  | missingRequiredArgument => "MissingRequiredArgument"
  | argumentConflict => "ArgumentConflict"
  | tooManyValues => "TooManyValues"
  | missingSubcommand => "MissingSubcommand"
  | nothingGiven => "DisplayHelpOnMissingArgumentOrSubcommand"
  | help => "DisplayHelp"
  | version => "DisplayVersion"

/-- The exit code for a command line that is not carried out. -/
def UsageError.exitCode : UsageError → Nat
  | help | version => 0
  | _ => 2

-- ============================================================= options

/-- What an option takes. -/
inductive Arity where
  /-- No value. -/
  | flag
  /-- A text, once. -/
  | text
  /-- A path, once; it cannot be empty. -/
  | path
  /-- A text, as often as is wanted. -/
  | texts
  /-- No value; what it asks for is done at once. -/
  | request (answer : UsageError)
deriving DecidableEq, Repr

/-- An option: its long name, its letter if it has one, and what it
takes. -/
structure OptionSpec where
  long : String
  letter : Option Char := none
  arity : Arity
deriving DecidableEq, Repr

namespace OptionSpec

def help : OptionSpec := ⟨"help", some 'h', .request .help⟩
def version : OptionSpec := ⟨"version", some 'V', .request .version⟩
def logLevel : OptionSpec := ⟨"log-level", some 'l', .text⟩
def logFile : OptionSpec := ⟨"log-file", none, .path⟩
def quiet : OptionSpec := ⟨"quiet", some 'q', .flag⟩
def noColor : OptionSpec := ⟨"no-color", none, .flag⟩
def linkMap : OptionSpec := ⟨"linkmap", some 'm', .path⟩
def config : OptionSpec := ⟨"config", none, .path⟩
def excludeLibrary : OptionSpec := ⟨"exclude-library", none, .texts⟩
def noDefaultExclusions : OptionSpec :=
  ⟨"no-default-exclusions", none, .flag⟩
def capture : OptionSpec := ⟨"capture", some 'c', .path⟩
def output : OptionSpec := ⟨"output", some 'o', .path⟩
def sortRemaining : OptionSpec := ⟨"sort-remaining", none, .flag⟩
def noProgress : OptionSpec := ⟨"no-progress", none, .flag⟩
def qualified : OptionSpec := ⟨"qualified", none, .flag⟩
def collisions : OptionSpec := ⟨"collisions", none, .flag⟩

/-- The options that stand with any command and in front of it. -/
def globals : List OptionSpec := [logLevel, logFile, quiet, noColor]

/-- The options in front of the command. -/
def beforeCommand : List OptionSpec := globals ++ [help, version]

/-- The options that all commands have. -/
def shared : List OptionSpec :=
  globals ++ [help, linkMap, config, excludeLibrary, noDefaultExclusions]

/-- The options of a command. -/
def ofCommand : CommandName → List OptionSpec
  | .generate => shared ++ [capture, output, sortRemaining, noProgress]
  | .resolve => shared ++ [capture, qualified]
  | .addresses => shared ++ [output]
  | .stats => shared ++ [collisions]

/-- The options that a command cannot do without. -/
def required : CommandName → List OptionSpec
  | .generate | .resolve => [linkMap, capture]
  | .addresses | .stats => [linkMap]

end OptionSpec

end LinkOrder.Cli
