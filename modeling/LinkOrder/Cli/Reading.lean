/-
Reading a command line. An option that waits for its value gets it from
the next argument, unless that is an option itself; whether the value is
any good is settled when the next option is met, or at the end. The
arguments behind the command are read, and judged, before those in front
of it are.
-/
import LinkOrder.Cli.Invocation
import LinkOrder.Cli.Usage

namespace LinkOrder.Cli

/-- The options met so far. -/
structure Given where
  /-- The options that are settled, in order, with their values. -/
  settled : List (OptionSpec × String) := []
  /-- The last option, with its value if it has got it. -/
  waiting : Option (OptionSpec × Option String) := none
deriving Repr

namespace Given

/-- Whether an option is settled. -/
def has (given : Given) (option : OptionSpec) : Bool :=
  given.settled.any (·.1 = option)

/-- The value of an option. -/
def value? (given : Given) (option : OptionSpec) : Option String :=
  given.settled.lookup option

/-- The values of an option, in order. -/
def values (given : Given) (option : OptionSpec) : List String :=
  (given.settled.filter (·.1 = option)).map Prod.snd

/-- Settles an option with its value. -/
def settle (given : Given) (option : OptionSpec) (value : String) :
    Except UsageError Given :=
  if option.arity ≠ .texts && given.has option then
    .error .argumentConflict
  else if option.arity = .path && value = "" then .error .invalidValue
  else .ok { given with settled := given.settled ++ [(option, value)] }

/-- Settles the option that waits, if one does. -/
def settleWaiting (given : Given) : Except UsageError Given :=
  match given.waiting with
  | none => .ok given
  | some (_, none) => .error .invalidValue
  | some (option, some value) =>
      settle { given with waiting := none } option value

/-- Meets an option together with its value. -/
def meetWithValue (given : Given) (option : OptionSpec) (value : String) :
    Except UsageError Given :=
  match given.settleWaiting with
  | .error error => .error error
  | .ok given => given.settle option value

/-- Meets an option whose value, if it takes one, is still to come. -/
def meetOption (given : Given) (option : OptionSpec) :
    Except UsageError Given :=
  match given.settleWaiting with
  | .error error => .error error
  | .ok given =>
      match option.arity with
      | .request answer => .error answer
      | .flag => given.settle option ""
      | _ => .ok { given with waiting := some (option, none) }

/-- Whether the last option still waits for its value. -/
def isWaiting (given : Given) : Bool :=
  match given.waiting with
  | some (_, none) => true
  | _ => false

end Given

/-- Whether an option takes a value. -/
def OptionSpec.takesValue (option : OptionSpec) : Bool :=
  match option.arity with
  | .flag | .request _ => false
  | .text | .path | .texts => true

-- =========================================================== arguments

/-- An argument behind two dashes. -/
def readLong (options : List OptionSpec) (given : Given)
    (body : List Char) : Except UsageError Given :=
  let (name, value) : List Char × Option (List Char) :=
    match Text.cut '=' body with
    | some (name, value) => (name, some value)
    | none => (body, none)
  match options.find? (·.long = String.ofList name) with
  | none => .error .unknownArgument
  | some option =>
      match value with
      | none => given.meetOption option
      | some value =>
          if option.takesValue then
            given.meetWithValue option (String.ofList value)
          else .error .tooManyValues

/-- The letters behind one dash: flags, of which each is met, up to an
option with a value, which takes what is left. -/
def readLetters (options : List OptionSpec) (given : Given) :
    List Char → Except UsageError Given
  | [] => .ok given
  | letter :: rest =>
      match options.find? (·.letter = some letter) with
      | none => .error .unknownArgument
      | some option =>
          if option.takesValue then
            match rest with
            | [] => given.meetOption option
            | '=' :: value =>
                given.meetWithValue option (String.ofList value)
            | value => given.meetWithValue option (String.ofList value)
          else
            match given.meetOption option with
            | .error error => .error error
            | .ok given => readLetters options given rest

/-- An argument that is no command and no end of options. `stray` is what
is wrong with one that belongs to nothing. -/
def readArgument (options : List OptionSpec) (stray : UsageError)
    (given : Given) (argument : String) : Except UsageError Given :=
  match argument.toList with
  | '-' :: '-' :: body => readLong options given body
  | '-' :: letter :: rest => readLetters options given (letter :: rest)
  | _ =>
      match given.waiting with
      | some (option, none) =>
          .ok { given with waiting := some (option, some argument) }
      | _ => .error stray

/-- The argument behind which no options stand. -/
def endOfOptions : String := "--"

/-- The arguments behind a command. -/
def readCommandArguments (options : List OptionSpec) (given : Given) :
    List String → Except UsageError Given
  | [] => given.settleWaiting
  | argument :: rest =>
      if argument = endOfOptions then
        match rest with
        | [] => given.settleWaiting
        | _ => .error .unknownArgument
      else
        match readArgument options .unknownArgument given argument with
        | .error error => .error error
        | .ok given => readCommandArguments options given rest

/-- What the arguments of the help command ask for: help on a command, or
on helping, and nothing beyond that. -/
def readHelp : List String → UsageError
  | [] => .help
  | [topic] =>
      if topic = helpCommand || (CommandName.byName.lookup topic).isSome then
        .help
      else .invalidSubcommand
  | _ => .invalidSubcommand

/-- The arguments in front of the command, the command, and the arguments
behind it. -/
def readProgramArguments (given : Given) :
    List String → Except UsageError (Given × CommandName × List String)
  | [] =>
      match given.settleWaiting with
      | .error error => .error error
      | .ok given =>
          .error
            (if given.settled = [] then .nothingGiven
            else .missingSubcommand)
  | argument :: rest =>
      let command := CommandName.byName.lookup argument
      if !given.isWaiting && argument = helpCommand then
        .error (readHelp rest)
      else if argument = endOfOptions then
        match rest with
        | [] => readProgramArguments given []
        | stray :: _ =>
            .error
              (if stray = helpCommand
                || (CommandName.byName.lookup stray).isSome then
                .unknownArgument
              else .invalidSubcommand)
      else
        match given.isWaiting, command with
        | false, some command => .ok (given, command, rest)
        | _, _ =>
            match readArgument OptionSpec.beforeCommand .invalidSubcommand
                given argument with
            | .error error => .error error
            | .ok given => readProgramArguments given rest

-- ========================================================= invocations

/-- What is asked for with any command. What stands behind the command
goes before what stands in front of it. -/
def globalsOf (before behind : Given) : GlobalArguments where
  logLevel := (behind.value? .logLevel).or (before.value? .logLevel)
  logFile := (behind.value? .logFile).or (before.value? .logFile)
  quiet := behind.has .quiet || before.has .quiet
  noColor := behind.has .noColor || before.has .noColor

/-- The link map and the configuration of a command. -/
def mapOf (given : Given) : MapArguments where
  linkMap := (given.value? .linkMap).getD ""
  config := given.value? .config
  excludedLibraries := given.values .excludeLibrary
  noDefaultExclusions := given.has .noDefaultExclusions

/-- A command with its arguments. -/
def commandOf (name : CommandName) (given : Given) : Command :=
  let map := mapOf given
  let capture := (given.value? .capture).getD ""
  match name with
  | .generate =>
      .generate
        { map := map
          capture := capture
          output := (given.value? .output).getD "order_file.txt"
          sortRemaining := given.has .sortRemaining
          noProgress := given.has .noProgress }
  | .resolve =>
      .resolve
        { map := map
          capture := capture
          qualified := given.has .qualified }
  | .addresses =>
      .addresses
        { map := map
          output := given.value? .output }
  | .stats =>
      .stats
        { map := map
          collisions := given.has .collisions }

/-- What a command line asks the program to do. -/
def Invocation.ofArguments (arguments : List String) :
    Except UsageError Invocation :=
  match readProgramArguments {} arguments with
  | .error error => .error error
  | .ok (before, name, rest) =>
      match readCommandArguments (OptionSpec.ofCommand name) {} rest with
      | .error error => .error error
      | .ok behind =>
          if (OptionSpec.required name).all behind.has then
            match before.settleWaiting with
            | .error error => .error error
            | .ok before =>
                .ok ⟨commandOf name behind, globalsOf before behind⟩
          else .error .missingRequiredArgument

end LinkOrder.Cli
