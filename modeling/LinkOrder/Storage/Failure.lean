/-
Why storage refuses a request, and how errors name their causes. An error
with a cause of its own is reported as a chain, from what was attempted
down to what went wrong.
-/

namespace LinkOrder

namespace Storage

/-- Why storage refuses a request. -/
inductive Failure where
  | notFound
  | alreadyExists
  | notDirectory
  | isDirectory
  | nameTooLong
  | nulInName
  | notText
  | other (description : String)
deriving DecidableEq, Repr, Inhabited

/-- The wording of a refusal. -/
def Failure.message : Failure → String
  | notFound => "No such file or directory (os error 2)"
  | alreadyExists => "File exists (os error 17)"
  | notDirectory => "Not a directory (os error 20)"
  | isDirectory => "Is a directory (os error 21)"
  | nameTooLong => "File name too long (os error 36)"
  | nulInName => "file name contained an unexpected NUL byte"
  | notText => "stream did not contain valid UTF-8"
  | other description => description

end Storage

/-- The report of an error together with its causes. -/
def reportChain (messages : List String) : String :=
  String.intercalate ": " messages

end LinkOrder
