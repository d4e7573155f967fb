/-
Reading a link map line by line. A scan stands in one part of the link
map and moves forward only: a marker of a part that lies behind is an
ordinary line of the present one. What a line does is first settled as an
event and then applied, so that the state of the scan, its statistics and
its records all follow from the same reading of the line. A recordable
symbol outside the text section ends the scan.
-/
import LinkOrder.LinkMap.Line
import LinkOrder.Log.Record
import LinkOrder.Text.Line

namespace LinkOrder.LinkMap

/-- What a scan has met. -/
structure ScanStats where
  objectFiles : Nat := 0
  symbolLines : Nat := 0
  recorded : Nat := 0
  malformed : Nat := 0
  filtered : Nat := 0
  textSectionFound : Bool := false
  terminatedEarly : Bool := false
deriving DecidableEq, Repr, Inhabited

/-- A scan between two lines. -/
structure Scan where
  part : Part := .preamble
  objects : Array ObjectFile := #[]
  table : Table := .ofBounds .empty
  stats : ScanStats := {}
deriving Inhabited

/-- What one line does to a scan. -/
inductive Event where
  | entered (part : Part)
  | ignored
  | object (line : ObjectLine)
  | textSection (bounds : Bounds)
  | symbol (line : SymbolLine)
deriving DecidableEq, Repr

namespace Scan

/-- What the line says as a line of the part in which the scan stands. -/
def content (rule : Eligibility) (scan : Scan) (line : List Char) : Event :=
  match scan.part with
  | .preamble => .ignored
  | .objectFiles =>
      match ObjectLine.read? line with
      | some object => .object object
      | none => .ignored
  | .sections =>
      if scan.stats.textSectionFound then .ignored
      else
        match textBounds? line with
        | some bounds => .textSection bounds
        | none => .ignored
  | .symbols => .symbol (.read rule scan.objects line)

/-- What the line does: enter the part it announces, if that lies ahead,
and else whatever its content says. -/
def event (rule : Eligibility) (scan : Scan) (line : List Char) : Event :=
  match Part.announced? line with
  | some next =>
      if scan.part.rank < next.rank then .entered next
      else scan.content rule line
  | none => scan.content rule line

/-- The scan after a line of the symbols. -/
def applySymbol (scan : Scan) (line : SymbolLine) : Scan :=
  let stats := scan.stats
  match line with
  | .other => scan
  | .short => { scan with stats.malformed := stats.malformed + 1 }
  | .badAddress | .unknownObject _ _ =>
      { scan with
        stats.symbolLines := stats.symbolLines + 1
        stats.malformed := stats.malformed + 1 }
  | .filtered =>
      { scan with
        stats.symbolLines := stats.symbolLines + 1
        stats.filtered := stats.filtered + 1 }
  | .recordable address symbol =>
      if scan.table.bounds.covers address then
        { scan with
          table := scan.table.insert address symbol
          stats.symbolLines := stats.symbolLines + 1
          stats.recorded := stats.recorded + 1 }
      else
        { scan with
          stats.symbolLines := stats.symbolLines + 1
          stats.terminatedEarly := true }

/-- The scan after an event. -/
def apply (scan : Scan) (event : Event) : Scan :=
  match event with
  | .entered part => { scan with part }
  | .ignored => scan
  | .object line =>
      { scan with
        objects := scan.objects.push line.object
        stats.objectFiles := scan.stats.objectFiles + 1 }
  | .textSection bounds =>
      { scan with
        table := .ofBounds bounds
        stats.textSectionFound := true }
  | .symbol line => scan.applySymbol line

/-- The scan after a line. -/
def step (rule : Eligibility) (scan : Scan) (line : List Char) : Scan :=
  scan.apply (scan.event rule line)

/-- The scan after all lines, or after the one that ended it. -/
def run (rule : Eligibility) (scan : Scan) : List (List Char) → Scan
  | [] => scan
  | line :: rest =>
      let next := scan.step rule line
      if next.stats.terminatedEarly then next else run rule next rest

end Scan

/-- Scans the lines of a link map. -/
def scanLines (rule : Eligibility) (lines : List (List Char)) : Scan :=
  Scan.run rule {} lines

/-- Scans a link map that is there as a whole text. -/
def scanText (rule : Eligibility) (text : String) : Scan :=
  scanLines rule (Text.lines text.toList)

/-- Scans a link map that arrives as a stream of bytes. -/
def scanBytes (rule : Eligibility) (bytes : List UInt8) : Scan :=
  scanLines rule (Text.streamedLines bytes)

-- ============================================================= records

/-- A record of a scan. -/
def record (level : Log.Level) (message : String) : Log.Record :=
  ⟨level, .linkMap, message⟩

/-- An index as records show it. -/
def showIndex : Option UInt64 → String
  | some index => "Some(" ++ toString index.toNat ++ ")"
  | none => "None"

/-- What a scan says about a line of the symbols. -/
def Scan.symbolRecords (scan : Scan) (line : List Char) :
    SymbolLine → List Log.Record
  | .badAddress =>
      [record .debug ("Skipping symbol line with bad address: "
        ++ String.ofList line)]
  | .unknownObject name index =>
      [record .debug ("Symbol " ++ name ++ " references unknown object ["
        ++ toString index ++ "]")]
  | .recordable address _ =>
      if scan.table.bounds.covers address then []
      else
        [record .debug ("Symbol scan left the text section at "
          ++ Numeral.formatAddress address)]
  | .other | .short | .filtered => []

/-- What a scan says about a line. -/
def Scan.lineRecords (scan : Scan) (line : List Char) :
    Event → List Log.Record
  | .entered part => [record .trace ("Entering " ++ part.name)]
  | .ignored => []
  | .object object =>
      if object.index.map UInt64.toNat = some scan.objects.size then []
      else
        [record .debug ("Object file index " ++ showIndex object.index
          ++ " out of sequence, expected " ++ toString scan.objects.size)]
  | .textSection bounds =>
      [record .debug ("Text section at "
        ++ Numeral.formatAddress bounds.start ++ " ("
        ++ Numeral.formatAddress bounds.size ++ " bytes)")]
  | .symbol symbol => scan.symbolRecords line symbol

/-- What a scan says when it is over. -/
def Scan.closingRecords (scan : Scan) : List Log.Record :=
  (if scan.stats.textSectionFound then []
    else [record .warn "No __TEXT,__text section found in link map"])
  ++ [record .info ("Parsed link map: "
      ++ toString scan.stats.objectFiles ++ " objects, "
      ++ toString scan.table.size ++ " symbols recorded, "
      ++ toString scan.stats.filtered ++ " filtered, "
      ++ toString scan.stats.malformed ++ " malformed")]

/-- What a scan says from here on. -/
def Scan.records (rule : Eligibility) (scan : Scan) :
    List (List Char) → List Log.Record
  | [] => scan.closingRecords
  | line :: rest =>
      let event := scan.event rule line
      let next := scan.apply event
      scan.lineRecords line event
        ++ if next.stats.terminatedEarly then next.closingRecords
          else next.records rule rest

end LinkOrder.LinkMap
