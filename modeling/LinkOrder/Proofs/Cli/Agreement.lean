/-
`resolve` and the pipeline agree. Both scan the same link map and resolve
the same capture, so the symbols that the one prints are the trace from
which the other lays out its file: what is observed there are the first of
each name among the printed symbols, and what remains are the other names
of the table (`pipeline_agrees_with_resolve`).

Two facts carry this. Whatever a scan enters may be ordered by the very
rule that the layout goes by (`admits_of_mem_scanLines`), so the layout
rejects nothing; and whatever is resolved is in the table
(`mem_symbols_of_mem_resolve`). Over such tables the layout, which keeps
symbols and groups, comes down to names (`agrees_planOf`).
-/
import LinkOrder.Proofs.Cli.Running
import LinkOrder.Proofs.LinkMap.Consumed
import LinkOrder.Proofs.Order.Agreement
import LinkOrder.Proofs.Resolution.Attribution

namespace LinkOrder

-- ============================================================ agreement

open Simulation (Prints)

/-- For every valid configuration, whatever the bytes of the link map, and
for every capture that can be decoded, where records leave the two files
alone: the pipeline on them has a result, and so has `resolve`. What
`resolve` prints is, symbol by symbol, the trace of which the order file
has the first of each name in front; and the rule rejects nothing that is
in the table, so that the file has one entry for each of its names. That
holds however the table is enumerated. -/
theorem pipeline_agrees_with_resolve {config : Config}
    (hvalid : config.validate = .ok ()) {s : Surroundings}
    {sink : Log.Sink} {mapPath capturePath : String}
    {bytes contents : List UInt8} {text : List Char} {capture : Capture}
    (hmap : sink.Keeps s.files mapPath bytes)
    (hcontents : sink.Keeps s.files capturePath contents)
    (htext : Utf8.decode? contents = some text)
    (hcapture : Capture.ofJson (String.ofList text) = .ok capture) :
    let table := (LinkMap.scanBytes config.eligibility bytes).table
    let trace := (capture.resolve table).symbols
    (∀ symbol ∈ table.symbols, config.eligibility.admits symbol)
      ∧ (∃ output : Pipeline.Output,
          ((Pipeline.run sink config mapPath capturePath
            : ExceptT Pipeline.Error Simulation _).run s).1 = .ok output
          ∧ output.scan.table = table
          ∧ Order.Agrees table trace output.file)
      ∧ (∀ entries : List (UInt64 × Symbol), entries.Perm table.toList →
          Order.Agrees table trace (Order.planOf config.eligibility
            config.remainingOrder entries trace).file)
      ∧ ∀ (arguments : Cli.ResolveArguments) (manner : Cli.Manner),
          arguments.map.linkMap = mapPath →
          arguments.capture = capturePath →
          ((arguments.map.resolveConfig
            : ExceptT Config.Error Simulation _).run s).1 = .ok config →
          manner.sink.Keeps s.files mapPath bytes →
          manner.sink.Keeps s.files capturePath contents →
          Prints (arguments.execute manner) s
            (String.join ((trace.map arguments.line).map (· ++ "\n"))) := by
  intro table trace
  have hadmits : ∀ symbol ∈ table.symbols,
      config.eligibility.admits symbol :=
    fun symbol h => LinkMap.admits_of_mem_scanLines h
  have htrace : ∀ symbol ∈ trace, symbol ∈ table.symbols :=
    fun symbol h => Resolution.mem_symbols_of_mem_resolve h
  -- the run comes to exactly what is assembled from the two texts
  have hrun := Simulation.yields_run hvalid hmap hcontents htext hcapture
  refine ⟨hadmits, ⟨_, hrun.1, rfl, ?_⟩, fun entries hentries => ?_, ?_⟩
  · exact Order.agrees_planOf _ (.refl _) hadmits htrace
  · exact Order.agrees_planOf _ hentries hadmits htrace
  · intro arguments manner hlinkMap hpath hconfig hmap' hcontents'
    subst hlinkMap hpath
    exact Cli.prints_resolve hconfig hmap' hcontents' htext hcapture

/-- A link map in which two object files carry a name. -/
def sampleMap : String :=
  "# Object files:\n[  0] /b/x.o\n[  1] /b/y.o\n"
    ++ "# Sections:\n0x1000\t0x100\t__TEXT\t__text\n"
    ++ "# Symbols:\n0x1000\t0x10\t[  0] _a\n"
    ++ "0x1010\t0x10\t[  1] _a\n0x1020\t0x10\t[  0] _b\n"

/-- A capture that meets that name three times. -/
def sampleCapture : String :=
  "\x7b\"addresses\":[4112,4112,4096],\"loadedImages\":"
    ++ "[\x7b\"path\":\"/app\",\"loadAddress\":0,\"slide\":0\x7d]\x7d"

/-- The two in files of their own. -/
def sampleSurroundings : Surroundings where
  files :=
    { nodes :=
        [(["map"], .file (Utf8.encode sampleMap.toList)),
          (["capture"], .file (Utf8.encode sampleCapture.toList))]
      workingDirectory := [] }

/-- The name is listed once, and printed three times. -/
theorem pipeline_agrees_with_resolve_sample :
    let s := sampleSurroundings
    let arguments : Cli.ResolveArguments := ⟨⟨"/map", none, [], false⟩,
      "/capture", false⟩
    (∃ output : Pipeline.Output,
        ((Pipeline.run .nowhere {} "/map" "/capture"
          : ExceptT Pipeline.Error Simulation _).run s).1 = .ok output
        ∧ output.file.observed = ["y.o:_a"] ∧ output.file.size = 2)
      ∧ Prints (arguments.execute {}) s "_a\n_a\n_a\n" := by
  intro s arguments
  have hmap : Log.Sink.nowhere.Keeps s.files "/map"
      (Utf8.encode sampleMap.toList) := ⟨rfl, trivial⟩
  have hcontents : Log.Sink.nowhere.Keeps s.files "/capture"
      (Utf8.encode sampleCapture.toList) := ⟨rfl, trivial⟩
  have htext : Utf8.decode? (Utf8.encode sampleCapture.toList)
      = some sampleCapture.toList := by decide +kernel
  have hcapture : Capture.ofJson (String.ofList sampleCapture.toList)
      = .ok ⟨[4112, 4112, 4096], [⟨"/app", 0, 0⟩]⟩ := by decide +kernel
  have hconfig : ((arguments.map.resolveConfig
      : ExceptT Config.Error Simulation _).run s).1 = .ok {} := by
    decide +kernel
  have hsymbols : (LinkMap.scanBytes (Config.eligibility {})
      (Utf8.encode sampleMap.toList)).table.symbols
        = [⟨"_a", .ofDescriptor "/b/x.o"⟩, ⟨"_a", .ofDescriptor "/b/y.o"⟩,
          ⟨"_b", .ofDescriptor "/b/x.o"⟩] := by decide +kernel
  have htrace : (Capture.resolve ⟨[4112, 4112, 4096], [⟨"/app", 0, 0⟩]⟩
      (LinkMap.scanBytes (Config.eligibility {})
        (Utf8.encode sampleMap.toList)).table).symbols
        = [⟨"_a", .ofDescriptor "/b/y.o"⟩, ⟨"_a", .ofDescriptor "/b/y.o"⟩,
          ⟨"_a", .ofDescriptor "/b/x.o"⟩] := by decide +kernel
  obtain ⟨-, ⟨output, hrun, -, hfile⟩, -, hresolve⟩ :=
    @pipeline_agrees_with_resolve {} (by decide) s _ _ _ _ _ _ _
      hmap hcontents htext hcapture
  refine ⟨⟨output, hrun, ?_, ?_⟩, ?_⟩
  · rw [hfile.observed, htrace]
    unfold Order.writtenIn
    rw [hsymbols]
    decide +kernel
  · rw [hfile.size, hsymbols]
    decide +kernel
  · have hprints := hresolve arguments {} rfl rfl hconfig hmap hcontents
    rw [htrace] at hprints
    exact hprints

end LinkOrder
