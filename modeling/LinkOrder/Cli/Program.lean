/-
The program around its commands: what the environment says about colours
and records, where records go, and how a failure is reported. Records go
to a log file if one is asked for, else by the directives of the
environment if it has any, else to the terminal by level.
-/
import LinkOrder.Cli.Execution

namespace LinkOrder.Cli

open Terminal (Style)

/-- What a run knows of its environment: the variables that it looks at,
and whether a person is looking on. -/
structure Environment where
  colourForced : Option String := none
  colourRefused : Option String := none
  directives : Option String := none
  directedStyle : Option String := none
  interactive : Bool := false
deriving DecidableEq, Repr, Inhabited

namespace Environment

/-- The variables that are looked at. -/
def colourForcedName : String := "CLICOLOR_FORCE"
def colourRefusedName : String := "NO_COLOR"
def directivesName : String := "RUST_LOG"
def directedStyleName : String := "RUST_LOG_STYLE"

/-- Whether answers and records are coloured. Forcing colours goes before
refusing them. -/
def coloured (environment : Environment) : Bool :=
  match environment.colourForced, environment.colourRefused with
  | some value, refused =>
      value ≠ "0" || (refused.isNone && environment.interactive)
  | none, some _ => false
  | none, none => environment.interactive

/-- Whether records are coloured that directives select. A variable of
their own settles it, if it has one of two values; else refusing colours
goes before forcing them. -/
def directedColoured (environment : Environment) : Bool :=
  if environment.directedStyle = some "always" then true
  else if environment.directedStyle = some "never" then false
  else if environment.colourRefused.getD "" ≠ "" then false
  else environment.colourForced.getD "" ≠ "" || environment.interactive

end Environment

/-- Whether an invocation speaks in colour. -/
def Invocation.coloured (invocation : Invocation)
    (environment : Environment) : Bool :=
  environment.coloured && !invocation.globals.noColor

variable {m : Type → Type} [Monad m] [Host m]

/-- Where the records of an invocation go. A log file is made at once, and
directives that are not understood are complained of. -/
def Invocation.openSink (invocation : Invocation)
    (environment : Environment) : ExceptT CommandError m Log.Sink := do
  let level ← perform invocation.logLevel
  let threshold := Log.Threshold.ofName level
  match invocation.globals.logFile, environment.directives with
  | some path, _ =>
      attempt .io (Host.append path [])
      return .file path threshold
  | none, some text =>
      let (directives, complaints) := Log.Directives.parse text
      perform (Host.complainLines complaints)
      return .directed directives environment.directedColoured
  | none, none =>
      return .terminal threshold (invocation.coloured environment)

/-- Opens the sink of an invocation and carries out its command. -/
def Invocation.execute (invocation : Invocation)
    (environment : Environment) : ExceptT CommandError m Unit := do
  let sink ← invocation.openSink environment
  perform (sink.send ⟨.debug, .command,
    "Executing " ++ invocation.command.name ++ " command"⟩)
  invocation.command.execute
    { sink := sink
      quiet := invocation.globals.quiet
      coloured := invocation.coloured environment }

/-- Runs an invocation and reports a failure. The result is the exit
code. -/
def Invocation.run (invocation : Invocation) (environment : Environment) :
    m Nat := do
  match ← (invocation.execute environment).run with
  | .ok () => return 0
  | .error error =>
      let mark := (Style.plain .red).paint
        (invocation.coloured environment) "[!]"
      Host.complainLines [mark ++ " " ++ reportChain error.chain]
      return 1

end LinkOrder.Cli
