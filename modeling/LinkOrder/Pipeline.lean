/-
From a link map and a capture to an order file. The pipeline accepts a
valid configuration only, scans the link map, resolves the capture and
lays out the file, in that order, and stops at the first error. On inputs
in memory it is a function, which fails for an invalid configuration
alone.
-/
import LinkOrder.Inputs
import LinkOrder.Order.Plan
import LinkOrder.Resolution

namespace LinkOrder

namespace Pipeline

-- ============================================================== errors

/-- Why there is no order file. -/
inductive Error where
  | linkMap (error : LinkMap.Error)
  | capture (error : Capture.Error)
  | config (error : Config.Error)
deriving DecidableEq, Repr

namespace Error

/-- What an error says. -/
def message : Error → String
  | linkMap error => "Link map unavailable: " ++ error.message
  | capture error => "Capture unavailable: " ++ error.message
  | config error => "Configuration error: " ++ error.message

/-- What an error and its causes say. -/
def chain : Error → List String
  | linkMap error => message (linkMap error) :: error.chain
  | capture error => message (capture error) :: error.chain
  | config error => message (config error) :: error.chain

end Error

-- ============================================================== output

/-- What a pipeline makes of its inputs. -/
structure Output where
  scan : LinkMap.Scan
  resolution : Resolution
  plan : Order.Plan

namespace Output

/-- The order file. -/
def file (output : Output) : OrderFile := output.plan.file

/-- The number of symbols in the table. -/
def symbolCount (output : Output) : Nat := output.scan.table.size

end Output

/-- Resolves a capture and lays out the order file of a scanned link
map. -/
def assemble (config : Config) (scan : LinkMap.Scan) (capture : Capture) :
    Output :=
  let resolution := capture.resolve scan.table
  { scan := scan
    resolution := resolution
    plan := scan.table.plan config.eligibility config.remainingOrder
      resolution.symbols }

/-- The pipeline on inputs in memory. -/
def runInMemory (config : Config) (linkMap : String) (capture : Capture) :
    Except Error Output := do
  config.validate.mapError fun reason => .config (.invalid reason)
  return assemble config (LinkMap.scanText config.eligibility linkMap)
    capture

-- ============================================================= storage

variable {m : Type → Type} [Monad m] [Host m]

/-- Scans the link map at a path. -/
def loadLinkMap (sink : Log.Sink) (config : Config) (path : String) :
    ExceptT Error m LinkMap.Scan :=
  attempt .linkMap (sink.timed "parse link map"
    (LinkMap.load sink config.eligibility path).run)

/-- `assemble`, telling of each step as it is made. -/
def assembleTelling (sink : Log.Sink) (config : Config)
    (scan : LinkMap.Scan) (capture : Capture) : m Output := do
  if capture.isEmpty then
    sink.send ⟨.warn, .pipeline, "Capture contains no addresses; "
      ++ "order file will only hold the remaining symbols"⟩
  let resolution ← sink.timed "resolve addresses" do
    let resolution := capture.resolve scan.table
    sink.sendAll resolution.records
    pure resolution
  let plan ← sink.timed "generate order file" do
    let plan := scan.table.plan config.eligibility config.remainingOrder
      resolution.symbols
    sink.sendAll plan.records
    pure plan
  pure ⟨scan, resolution, plan⟩

/-- The pipeline on stored inputs. -/
def run (sink : Log.Sink) (config : Config)
    (linkMapPath capturePath : String) : ExceptT Error m Output := do
  attempt (fun reason => .config (.invalid reason))
    (pure config.validate)
  let scan ← loadLinkMap sink config linkMapPath
  let capture ← attempt .capture (Capture.load sink capturePath).run
  perform (assembleTelling sink config scan capture)

end Pipeline

namespace OrderFile

variable {m : Type → Type} [Monad m] [Host m]

/-- Saves the file, in a directory that is made if need be. -/
def save (file : OrderFile) (path : String) :
    ExceptT Storage.Failure m Unit := do
  ExceptT.mk (Host.makeDirectories (Path.parent path))
  ExceptT.mk (Host.write path file.bytes)

end OrderFile

end LinkOrder
