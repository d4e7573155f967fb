/-
Where records go and what they look like there. Records go nowhere, to
the terminal, or to the end of a file; on the terminal either a threshold
selects them or the directives of the environment do, and each of the two
has a form of its own.
-/
import LinkOrder.Log.Directive
import LinkOrder.Storage.Host
import LinkOrder.Terminal.Control
import LinkOrder.Terminal.Style

namespace LinkOrder.Log

open Terminal (Colour Style switchOn switchOff withoutControls)

/-- Where records go. -/
inductive Sink where
  | nowhere
  | terminal (threshold : Threshold) (coloured : Bool)
  | directed (directives : Directives) (coloured : Bool)
  | file (path : String) (threshold : Threshold)
deriving Repr

/-- The style of a level on the terminal. -/
def Level.style : Level → Style
  | error => .bold .red
  | warn => .bold .yellow
  | info => .bold .green
  | debug => .bold .blue
  | trace => .bold .magenta

/-- A record on the terminal. -/
def Record.onTerminal (record : Record) (coloured : Bool) : String :=
  record.level.style.paint coloured record.level.padded ++ " "
    ++ Style.dimmed.paint coloured ("[" ++ record.source.target ++ "]")
    ++ " " ++ record.message

/-- What switches on the style of a level where directives select. -/
def Level.directedStyle : Level → String
  | error => switchOn "1" ++ switchOn "31"
  | warn => switchOn "33"
  | info => switchOn "32"
  | debug => switchOn "34"
  | trace => switchOn "36"

/-- What switches on the style of the brackets where directives select. -/
def bracketStyle : String := switchOn "90"

/-- The line of a record on the terminal where directives select. Further
lines of a message are indented. A line without colours is free of all
that steers the terminal, be it in the message. -/
def Record.directed (record : Record) (coloured : Bool) : String :=
  let paint := fun (style text : String) =>
    if coloured then style ++ text ++ switchOff else text
  let message := record.message.toList.flatMap fun c =>
    if c = '\n' then ['\n', ' ', ' ', ' ', ' '] else [c]
  let line := paint bracketStyle "["
    ++ paint record.level.directedStyle record.level.padded ++ " "
    ++ record.source.target ++ paint bracketStyle "]" ++ " "
    ++ String.ofList message ++ "\n"
  if coloured then line else withoutControls line

/-- A record in a file, behind the time in seconds. -/
def Record.inFile (record : Record) (time : Duration) : String :=
  toString time.seconds ++ "."
    ++ String.ofList
      (Numeral.paddedDigits 3 (time.nanoseconds / 1_000_000))
    ++ " " ++ record.onTerminal false

namespace Sink

variable {m : Type → Type} [Monad m] [Host m]

/-- Sends a record where it belongs, if it is to be shown there. A file
that cannot be written to loses it. -/
def send (sink : Sink) (record : Record) : m Unit := do
  match sink with
  | nowhere => pure ()
  | terminal threshold coloured =>
      if threshold.admits record.level then
        Host.complainLines [record.onTerminal coloured]
      else pure ()
  | directed directives coloured =>
      if directives.admit record then
        Host.complain (record.directed coloured)
      else pure ()
  | file path threshold =>
      if threshold.admits record.level then
        let time ← Host.epoch
        let line := record.inFile time ++ "\n"
        let _ ← Host.append path (Utf8.encode line.toList)
        pure ()
      else pure ()

/-- Sends records in order. -/
def sendAll (sink : Sink) : List Record → m Unit
  | [] => pure ()
  | record :: rest => do
      sink.send record
      sendAll sink rest

/-- Runs something between two records of its name, the second of which
tells how long it took. -/
def timed {α : Type} (sink : Sink) (name : String) (action : m α) :
    m α := do
  sink.send ⟨.debug, .timing, "[TIMER] " ++ name ++ " started"⟩
  let start ← Host.now
  let result ← action
  let stop ← Host.now
  let took := Duration.ofNanoseconds (stop - start)
  sink.send ⟨.debug, .timing,
    "[TIMER] " ++ name ++ " took " ++ took.formatMilliseconds⟩
  pure result

end Sink

end LinkOrder.Log
