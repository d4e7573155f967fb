/-
The program on the machine itself. Files, clocks and streams are the
machine's, and the environment is what its variables and terminal say;
everything else is the library's.
-/
import LinkOrder.Cli.Program
import LinkOrder.Cli.Reading
import Std.Time.DateTime.Timestamp

namespace LinkOrder

open Storage (Failure Kind)

/-- What a refusal of the machine says. -/
def failureOf (error : IO.Error) : Failure :=
  match error with
  | .noFileOrDirectory _ _ _ => .notFound
  | .alreadyExists _ 17 _ => .alreadyExists
  | .inappropriateType _ 20 _ => .notDirectory
  | .inappropriateType _ 21 _ => .isDirectory
  | .invalidArgument _ 36 _ => .nameTooLong
  | other => .other (toString other)

/-- Runs a request of the machine that concerns a path, and keeps what it
refuses. -/
def request {α : Type} (path : String) (action : IO α) :
    IO (Except Failure α) := do
  if path.toList.contains '\x00' then return .error .nulInName
  try
    return .ok (← action)
  catch error =>
    return .error (failureOf error)

/-- What stands at a path, if anything does. -/
def kindOf? (path : String) : IO (Option Kind) := do
  if path.toList.contains '\x00' then return none
  try
    let metadata ← (← IO.FS.realPath path).metadata
    match metadata.type with
    | .dir => return some .directory
    | _ => return some .file
  catch _ => return none

instance : Host IO where
  kind? := kindOf?
  read path := request path do return (← IO.FS.readBinFile path).toList
  write path contents :=
    request path (IO.FS.writeBinFile path ⟨contents.toArray⟩)
  append path contents := request path do
    let handle ← IO.FS.Handle.mk path .append
    handle.write ⟨contents.toArray⟩
  makeDirectory path := request path (IO.FS.createDir path)
  now := IO.monoNanosNow
  epoch := do
    let now ← Std.Time.Timestamp.now
    let nanoseconds := now.toNanosecondsSinceUnixEpoch.toInt.toNat
    return .ofNanoseconds nanoseconds
  print text := do (← IO.getStdout).putStr text
  complain text := do (← IO.getStderr).putStr text

/-- What the machine's variables and terminal say. -/
def readEnvironment : IO Cli.Environment := do
  return {
    colourForced := ← IO.getEnv Cli.Environment.colourForcedName
    colourRefused := ← IO.getEnv Cli.Environment.colourRefusedName
    directives := ← IO.getEnv Cli.Environment.directivesName
    directedStyle := ← IO.getEnv Cli.Environment.directedStyleName
    interactive := ← (← IO.getStdout).isTty }

end LinkOrder

open LinkOrder in
/-- Reads the command line and runs what it asks for. -/
def main (arguments : List String) : IO UInt32 := do
  match Cli.Invocation.ofArguments arguments with
  | .error error =>
      (← IO.getStderr).putStrLn error.name
      return error.exitCode.toUInt32
  | .ok invocation =>
      let code ← invocation.run (← readEnvironment)
      return code.toUInt32
