/-
What a run asks of the machine it runs on: to look at, read and write
files, to print, and to tell the time. Everything that a run does is
written against this interface. One host is the machine itself; another
is a value (`Storage/Surroundings.lean`), on which a run is a function
and can be reasoned about.
-/
import LinkOrder.Duration
import LinkOrder.Path
import LinkOrder.Storage.Failure
import LinkOrder.Text.Utf8

namespace LinkOrder

/-- What stands at a path. -/
inductive Storage.Kind where
  | directory
  | file
deriving DecidableEq, Repr, Inhabited

/-- What a run asks of its machine. -/
class Host (m : Type → Type) where
  /-- What stands at a path, if anything does. -/
  kind? : String → m (Option Storage.Kind)
  /-- The contents of a file. -/
  read : String → m (Except Storage.Failure (List UInt8))
  /-- Gives a file new contents, and makes the file if need be. -/
  write : String → List UInt8 → m (Except Storage.Failure Unit)
  /-- Adds to the end of a file, and makes the file if need be. -/
  append : String → List UInt8 → m (Except Storage.Failure Unit)
  /-- Makes a directory where nothing stands yet. -/
  makeDirectory : String → m (Except Storage.Failure Unit)
  /-- Nanoseconds since some moment before the run. -/
  now : m Nat
  /-- The time since the start of the epoch. -/
  epoch : m Duration
  /-- Prints a text where answers go. -/
  print : String → m Unit
  /-- Prints a text where records and complaints go. -/
  complain : String → m Unit

/-- A step that is never refused, among steps that may be. -/
def perform {m : Type → Type} [Monad m] {ε α : Type} (step : m α) :
    ExceptT ε m α :=
  ExceptT.lift step

/-- A step that may be refused, the refusal being told as `tell` does. -/
def attempt {m : Type → Type} [Monad m] {ε δ α : Type} (tell : ε → δ)
    (step : m (Except ε α)) : ExceptT δ m α :=
  ExceptT.mk do return (← step).mapError tell

namespace Host

variable {m : Type → Type} [Monad m] [Host m]

/-- The text of a file, which must be well encoded. -/
def readText (path : String) : ExceptT Storage.Failure m String := do
  let bytes ← ExceptT.mk (read path)
  match Utf8.decode? bytes with
  | some text => return String.ofList text
  | none => throw .notText

/-- Gives a file a text as its contents. -/
def writeText (path text : String) : ExceptT Storage.Failure m Unit :=
  ExceptT.mk (write path (Utf8.encode text.toList))

/-- Whether anything stands at a path. -/
def occupied (path : String) : m Bool := do
  return (← kind? path).isSome

/-- Makes a directory, which may be there already. -/
def settleDirectory (path : String) : m (Except Storage.Failure Unit) := do
  match ← makeDirectory path with
  | .error .alreadyExists =>
      if (← kind? path) = some .directory then return .ok ()
      else return .error .alreadyExists
  | answer => return answer

/-- Makes the first of some directories, each of which is to be held by
the next. Where the next is missing, it is made before. -/
def makeAlong : List String → m (Except Storage.Failure Unit)
  | [] => return .ok ()
  | path :: above => do
      match ← settleDirectory path with
      | .error .notFound =>
          match ← makeAlong above with
          | .ok () => settleDirectory path
          | refusal => return refusal
      | answer => return answer

/-- Makes a directory and those above it, as far as they are missing. -/
def makeDirectories (path : String) : m (Except Storage.Failure Unit) :=
  makeAlong (Path.ancestors path)

/-- Prints lines where answers go. -/
def printLines : List String → m Unit
  | [] => pure ()
  | line :: rest => do
      print (line ++ "\n")
      printLines rest

/-- Prints lines where records and complaints go. -/
def complainLines : List String → m Unit
  | [] => pure ()
  | line :: rest => do
      complain (line ++ "\n")
      complainLines rest

end Host

end LinkOrder
