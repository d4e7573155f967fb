/-
What a run reads from storage: link maps, captures and configurations.
Each is looked for first, so that one that is missing is told from one
that cannot be read. Bytes of a link map are never an error; captures and
configurations must be well encoded, and configurations valid.
-/
import LinkOrder.Config
import LinkOrder.Capture
import LinkOrder.LinkMap.Scan
import LinkOrder.Log.Sink

namespace LinkOrder

variable {m : Type → Type} [Monad m] [Host m]

-- =========================================================== link maps

namespace LinkMap

/-- Why a link map cannot be had. -/
inductive Error where
  | notFound (path : String)
  | io (failure : Storage.Failure)
deriving DecidableEq, Repr

namespace Error

/-- What an error says. -/
def message : Error → String
  | notFound path => "Link map not found: " ++ Text.quoted path
  | io failure => "IO error: " ++ failure.message

/-- What an error and its causes say. -/
def chain : Error → List String
  | notFound path => [message (notFound path)]
  | io failure => [message (io failure), failure.message]

end Error

/-- Scans the link map at a path. -/
def load (sink : Log.Sink) (rule : Eligibility) (path : String) :
    ExceptT Error m Scan := do
  if !(← perform (Host.occupied path)) then throw (.notFound path)
  perform (sink.send
    (record .debug ("Parsing link map " ++ Text.quoted path)))
  let bytes ← attempt .io (Host.read path)
  perform (sink.sendAll
    (Scan.records rule {} (Text.streamedLines bytes)))
  return scanBytes rule bytes

end LinkMap

-- ============================================================ captures

/-- The record of a capture that was read. -/
def Capture.loadedRecord (capture : Capture) : Log.Record :=
  ⟨.info, .capture, "Loaded capture with "
    ++ toString capture.addresses.length ++ " addresses across "
    ++ toString capture.loadedImages.length ++ " images"⟩

/-- Reads the capture at a path. -/
def Capture.load (sink : Log.Sink) (path : String) :
    ExceptT Capture.Error m Capture := do
  if !(← perform (Host.occupied path)) then throw (.notFound path)
  let text ← attempt .io (Host.readText path).run
  let capture ← attempt .parse (pure (Capture.ofJson text))
  perform (sink.send capture.loadedRecord)
  return capture

-- ====================================================== configurations

namespace Config

/-- The configuration in a text, if it is valid. -/
def ofText (text : String) : Except Error Config := do
  let config ← (ofJson text).mapError .parse
  config.validate.mapError .invalid
  return config

/-- Reads the configuration at a path, which must be valid. -/
def load (path : String) : ExceptT Error m Config := do
  if !(← perform (Host.occupied path)) then throw (.notFound path)
  let text ← attempt .io (Host.readText path).run
  ExceptT.mk (pure (ofText text))

/-- Reads the configuration at a path; the default takes the place of one
that cannot be had. -/
def loadOrDefault (path : String) : m Config := do
  match ← (load path).run with
  | .error _ => return {}
  | .ok config => return config

end Config

end LinkOrder
