/-
What a run has to say about itself besides its answer: records, each with
a level of importance, the part of the program that speaks, and a text.
Making records is left to the parts; which of them are shown, where and
in what form is decided in `Log/Sink.lean`.
-/

namespace LinkOrder.Log

/-- How important a record is, the most important level first. -/
inductive Level where
  | error
  | warn
  | info
  | debug
  | trace
deriving DecidableEq, Repr, Inhabited

namespace Level

/-- The place of a level, counted from the most important. -/
def rank : Level → Nat
  | error => 1
  | warn => 2
  | info => 3
  | debug => 4
  | trace => 5

/-- The name of a level, as records show it. -/
def name : Level → String
  | error => "ERROR"
  | warn => "WARN"
  | info => "INFO"
  | debug => "DEBUG"
  | trace => "TRACE"

/-- The name of a level, filled up to the width of the longest. -/
def padded (level : Level) : String :=
  level.name ++ String.ofList (List.replicate (5 - level.name.length) ' ')

end Level

/-- The least important level that is still shown, or none at all. -/
inductive Threshold where
  | off
  | upTo (level : Level)
deriving DecidableEq, Repr, Inhabited

namespace Threshold

/-- Whether records of the level are shown. -/
def admits (threshold : Threshold) (level : Level) : Bool :=
  match threshold with
  | off => false
  | upTo least => level.rank ≤ least.rank

/-- The name of a threshold. -/
def name : Threshold → String
  | off => "OFF"
  | upTo level => level.name

end Threshold

/-- The parts of the program that make records. -/
inductive Source where
  | command
  | linkMap
  | capture
  | resolver
  | generator
  | pipeline
  | timing
deriving DecidableEq, Repr, Inhabited

/-- The target by which records name their source. -/
def Source.target : Source → String
  | command => "order_file_generator::ui::cli::handler"
  | linkMap => "order_file_generator::linkmap::parser"
  | capture => "order_file_generator::capture"
  | resolver => "order_file_generator::resolver"
  | generator => "order_file_generator::order::generator"
  | pipeline => "order_file_generator::pipeline"
  | timing => "order_file_generator::utils::logging"

/-- One thing that a part of the program says about its work. -/
structure Record where
  level : Level
  source : Source
  message : String
deriving DecidableEq, Repr, Inhabited

end LinkOrder.Log
