/-
Carrying out commands. Every command checks its arguments, settles its
configuration and scans its link map before it writes anything, so a
command that fails on its inputs leaves all files as they were. Answers
go to the output; `generate` and `addresses` tell there what they wrote,
and `resolve`, whose output is the symbols, tells of its success among
the complaints.
-/
import LinkOrder.Cli.Invocation
import LinkOrder.Pipeline

namespace LinkOrder.Cli

open Terminal (Colour Style)

-- ============================================================== errors

/-- Why a command fails. -/
inductive CommandError where
  | arguments (error : ArgumentError)
  | config (error : Config.Error)
  | pipeline (error : Pipeline.Error)
  | linkMap (error : LinkMap.Error)
  | capture (error : Capture.Error)
  | io (failure : Storage.Failure)
deriving DecidableEq, Repr

/-- What an error and its causes say. -/
def CommandError.chain : CommandError → List String
  | arguments error => [error.message]
  | config error => error.chain
  | pipeline error => error.chain
  | linkMap error => error.chain
  | capture error => error.chain
  | io failure => [failure.message]

-- ============================================================== manner

/-- How a command speaks: where its records go, whether it tells of its
success, and whether in colour. -/
structure Manner where
  sink : Log.Sink := .nowhere
  quiet : Bool := false
  coloured : Bool := false
deriving Repr

variable {m : Type → Type} [Monad m] [Host m]

namespace Manner

/-- A line behind a mark in a colour. -/
def marked (manner : Manner) (mark : String) (colour : Colour)
    (text : String) : String :=
  (Style.plain colour).paint manner.coloured mark ++ " " ++ text

/-- A line that tells how things stand. -/
def status (manner : Manner) (text : String) : String :=
  manner.marked "[*]" .blue text

/-- A line that tells of a success. -/
def success (manner : Manner) (text : String) : String :=
  manner.marked "[+]" .green text

/-- Prints lines unless the command is to be quiet. -/
def tell (manner : Manner) (lines : List String) : m Unit :=
  if manner.quiet then pure () else Host.printLines lines

end Manner

-- ============================================================ generate

/-- The lines that tell what was written where. -/
def GenerateArguments.report (arguments : GenerateArguments)
    (manner : Manner) (output : Pipeline.Output) (took : Duration) :
    List String :=
  let resolution := output.resolution.stats
  let plan := output.plan.stats
  let dropped :=
    if resolution.dropped = 0 then []
    else
      [manner.status ("Dropped " ++ toString resolution.noImage
        ++ " outside any image, " ++ toString resolution.missingSymbol
        ++ " without a symbol")]
  [ manner.success ("Parsed " ++ toString output.symbolCount
      ++ " text symbols from " ++ arguments.map.linkMap),
    manner.success ("Resolved " ++ toString resolution.resolved ++ "/"
      ++ toString resolution.total ++ " captured addresses") ]
  ++ dropped
  ++ [ manner.success (toString plan.observed ++ " observed + "
      ++ toString plan.remaining ++ " remaining entries written to "
      ++ arguments.output ++ " in " ++ took.format) ]

/-- Writes an order file. -/
def GenerateArguments.execute (arguments : GenerateArguments)
    (manner : Manner) : ExceptT CommandError m Unit := do
  attempt .arguments arguments.validate.run
  let config ← attempt .config arguments.resolveConfig.run
  let start ← perform Host.now
  let output ← attempt .pipeline (Pipeline.run manner.sink config
    arguments.map.linkMap arguments.capture).run
  attempt .io (output.file.save arguments.output).run
  let stop ← perform Host.now
  let took := Duration.ofNanoseconds (stop - start)
  perform (manner.tell (arguments.report manner output took))

-- ============================================================= resolve

/-- The line of a resolved symbol. -/
def ResolveArguments.line (arguments : ResolveArguments)
    (symbol : Symbol) : String :=
  if arguments.qualified then symbol.qualifiedName else symbol.name

/-- Prints the symbols of a capture, in the order of its addresses. -/
def ResolveArguments.execute (arguments : ResolveArguments)
    (manner : Manner) : ExceptT CommandError m Unit := do
  attempt .arguments arguments.validate.run
  let config ← attempt .config arguments.map.resolveConfig.run
  let scan ← attempt .pipeline (Pipeline.loadLinkMap manner.sink config
    arguments.map.linkMap).run
  let capture ← attempt .capture
    (Capture.load manner.sink arguments.capture).run
  let resolution := capture.resolve scan.table
  perform (manner.sink.sendAll resolution.records)
  perform (Host.printLines (resolution.symbols.map arguments.line))
  if !manner.quiet then
    let stats := resolution.stats
    perform (Host.complainLines [manner.success (toString stats.resolved
      ++ " resolved, " ++ toString stats.dropped ++ " dropped")])

-- =========================================================== addresses

/-- The addresses of a table as a JSON list. -/
def addressList (table : Table) : String :=
  String.ofList (Json.writeList (table.addresses.map Json.writeNatural))

/-- Lists the addresses of a table, on the output or in a file. -/
def AddressesArguments.execute (arguments : AddressesArguments)
    (manner : Manner) : ExceptT CommandError m Unit := do
  attempt .arguments arguments.map.validate.run
  let config ← attempt .config arguments.map.resolveConfig.run
  let scan ← attempt .pipeline (Pipeline.loadLinkMap manner.sink config
    arguments.map.linkMap).run
  let list := addressList scan.table
  match arguments.output with
  | none => perform (Host.printLines [list])
  | some path =>
      attempt .io (Host.writeText path list).run
      perform (manner.tell [manner.success (toString scan.table.size
        ++ " addresses written to " ++ path)])

-- =============================================================== stats

/-- The lines that sum up a scan. -/
def summary (coloured : Bool) (scan : LinkMap.Scan) (groups : Nat) :
    List String :=
  let bounds := scan.table.bounds
  let count := fun (colour : Colour) (n : Nat) =>
    (Style.plain colour).paint coloured (toString n)
  [ (Style.bold .cyan).paint coloured "Link Map Summary",
    (Style.plain .cyan).paint coloured
      (String.ofList (List.replicate 40 '-')),
    "  Text section:     " ++ Numeral.formatAddress bounds.start ++ " - "
      ++ Numeral.formatAddress bounds.ceiling,
    "  Object files:     " ++ count .green scan.stats.objectFiles,
    "  Symbol lines:     " ++ toString scan.stats.symbolLines,
    "  Recorded:         " ++ count .green scan.table.size,
    "  Filtered:         " ++ toString scan.stats.filtered,
    "  Malformed:        " ++ count .yellow scan.stats.malformed,
    "  Collision groups: " ++ toString groups ]

/-- The line of a collision group: its name, and its object files. In
which order a table gives the members of a group is left open, and a line
that went by it could not be told beforehand. Here the object files stand
in the order of their texts, which is one of those that there may be. -/
def collisionLine (coloured : Bool) (group : String × List Symbol) :
    String :=
  let objects := group.2.map (·.object.display)
  "  " ++ (Style.plain .cyan).paint coloured group.1 ++ " "
    ++ Style.dimmed.paint coloured
      (String.intercalate ", " (objects.mergeSort fun a b => a ≤ b))

/-- The lines that list the collision groups, if there are any. -/
def collisionLines (coloured : Bool)
    (groups : List (String × List Symbol)) : List String :=
  match groups with
  | [] => []
  | groups =>
      "" :: (Style.bold .yellow).paint coloured "Collisions:"
        :: groups.map (collisionLine coloured)

/-- Sums up a link map, and lists its collision groups if that is asked
for. -/
def StatsArguments.execute (arguments : StatsArguments)
    (manner : Manner) : ExceptT CommandError m Unit := do
  attempt .arguments arguments.map.validate.run
  let config ← attempt .config arguments.map.resolveConfig.run
  let scan ← attempt .linkMap (LinkMap.load manner.sink config.eligibility
    arguments.map.linkMap).run
  let groups := Order.collisionGroups config.eligibility
    scan.table.symbols
  perform (Host.printLines
    (summary manner.coloured scan groups.length))
  if arguments.collisions then
    perform (Host.printLines (collisionLines manner.coloured groups))
  if !scan.stats.textSectionFound then
    perform (manner.tell [manner.status (
      "No __TEXT,__text section found; no symbols were recorded")])

/-- Carries out a command. -/
def Command.execute (command : Command) (manner : Manner) :
    ExceptT CommandError m Unit :=
  match command with
  | generate arguments => arguments.execute manner
  | resolve arguments => arguments.execute manner
  | addresses arguments => arguments.execute manner
  | stats arguments => arguments.execute manner

end LinkOrder.Cli
