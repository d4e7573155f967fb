/-
Order files read back. Entries are written as they are, with nothing to
set off what would break a line, so a file reads back only if each of its
lines can be one (`OrderFile.readsBack`). Nothing in the layout sees to
that; it is a property of what a scan of streamed lines enters
(`staysInLine_of_mem_scanLines`), and is kept when a name is written
behind that of an object file (`StaysInLine.endsLine_line`).

So it holds of what the pipeline makes of any stored link map
(`run_reads_back`).
-/
import LinkOrder.Proofs.Cli.Generation
import LinkOrder.Proofs.LinkMap.OneLine
import LinkOrder.Proofs.Order.Enumeration
import LinkOrder.Proofs.Resolution.Attribution
import LinkOrder.Proofs.Text.Encoding

namespace LinkOrder

open LinkMap (EndsLine StaysInLine)

-- ============================================================== entries

namespace Order

/-- With or without the object file in front, what stays in a line is
written as one. -/
theorem endsLine_line {entry : Entry} (h : StaysInLine entry.symbol) :
    EndsLine entry.line.toList := by
  unfold Entry.line Symbol.qualifiedName
  split
  · split
    · next file hfile =>
        have hqualified : file = entry.symbol.object.file := by
          unfold ObjectFile.qualifier? at hfile
          split at hfile
          · exact (Option.some.inj hfile).symm
          · cases hfile
        -- the colon stands between, whatever the name of the file ends in
        have hfront : EndsLine (file ++ ":").toList := by
          rw [hqualified, String.toList_append]
          refine ⟨?_, by simp⟩
          simpa using h.file
        rw [String.toList_append]
        exact hfront.join h.name
    · -- without an object file the name is all there is
      exact h.name
  · exact h.name

/-- The entries of a layout are for symbols of the table. -/
theorem mem_symbols_of_mem_entries {rule : Eligibility}
    {order : RemainingOrder} {table : Table}
    {entries : List (UInt64 × Symbol)} {trace : List Symbol}
    (hentries : entries.Perm table.toList)
    (htrace : ∀ s ∈ trace, s ∈ table.symbols) {entry : Entry}
    (h : entry ∈ (planOf rule order entries trace).entries) :
    entry.symbol ∈ table.symbols := by
  obtain ⟨row, hrow, hplan⟩ := planOf_entries rule order hentries htrace
  rw [hplan] at h
  obtain ⟨symbol, hsymbol, rfl⟩ := List.mem_map.1 h
  have hfiltered := (firstNamed_sublist _).subset hsymbol
  exact (hrow symbol).1 (List.mem_of_mem_filter hfiltered)

end Order

-- ================================================================ files

/-- What is saved of an order file is text, and the text that is shown;
its lines are those of the file; and whoever reads the place where it was
saved is given that text. -/
structure OrderFile.ReadsBack (file : OrderFile) : Prop where
  written : file.bytes = Utf8.encode file.text.toList
  decoded : Utf8.decode? file.bytes = some file.text.toList
  lines : (Text.lines file.text.toList).map String.ofList = file.lines
  saved : ∀ (path : String) (s : Surroundings),
    let run := (file.save path
      : ExceptT Storage.Failure Simulation Unit).run s
    run.1 = .ok () →
      ((Host.readText path
        : ExceptT Storage.Failure Simulation String).run run.2).1
          = .ok file.text

/-- A file reads back if each of its lines can be one. -/
theorem OrderFile.readsBack {file : OrderFile}
    (h : ∀ line ∈ file.lines, EndsLine line.toList) : file.ReadsBack := by
  have hdecoded : Utf8.decode? file.bytes = some file.text.toList := by
    rw [file.bytes_eq, Utf8.decode?_encode]
  refine ⟨file.bytes_eq, hdecoded, ?_, fun path s => ?_⟩
  · have htext : file.text.toList
        = (file.lines.map String.toList).flatMap fun line =>
            line ++ ['\n'] := by
      rw [OrderFile.text, String.toList_ofList, List.flatMap_map]
    have hlines : ∀ line ∈ file.lines.map String.toList, EndsLine line := by
      intro line hline
      obtain ⟨written, hwritten, rfl⟩ := List.mem_map.1 hline
      exact h written hwritten
    rw [htext, Text.lines_flatMap hlines, List.map_map]
    simp [Function.comp_def]
  · intro run hok
    -- to save it may have failed, and then there is nothing to read
    rcases Simulation.save_cases file path s with
      ⟨-, hsaved⟩ | ⟨failure, herror, -⟩
    · have hstands := Storage.FileSystem.read_eq_ok_iff.1 hsaved.read
      have hyields : Simulation.Yields .nowhere (Host.readText path).run _
          (textOf (.file _)) := Simulation.yields_readText hstands
      rw [hyields.1, textOf, ← file.bytes_eq, hdecoded]
      exact congrArg Except.ok String.ofList_toList
    · rw [hok] at herror
      cases herror

-- ============================================================= pipeline

/-- For every valid configuration, whatever the bytes of the link map, and
for every capture that can be decoded, where records leave the two files
alone: the pipeline on them has a result, laid out from the table and the
trace; and however the table is enumerated, the order file reads back. Its
lines are as many as there are entries, and one. -/
theorem run_reads_back {config : Config}
    (hvalid : config.validate = .ok ()) {s : Surroundings}
    {sink : Log.Sink} {mapPath capturePath : String}
    {bytes contents : List UInt8} {text : List Char} {capture : Capture}
    (hmap : sink.Keeps s.files mapPath bytes)
    (hcontents : sink.Keeps s.files capturePath contents)
    (htext : Utf8.decode? contents = some text)
    (hcapture : Capture.ofJson (String.ofList text) = .ok capture) :
    let table := (LinkMap.scanBytes config.eligibility bytes).table
    let trace := (capture.resolve table).symbols
    (∃ output : Pipeline.Output,
        ((Pipeline.run sink config mapPath capturePath
          : ExceptT Pipeline.Error Simulation _).run s).1 = .ok output
        ∧ output.plan = Order.planOf config.eligibility
          config.remainingOrder table.toList trace)
      ∧ ∀ entries : List (UInt64 × Symbol), entries.Perm table.toList →
        let plan := Order.planOf config.eligibility config.remainingOrder
          entries trace
        plan.file.ReadsBack
          ∧ plan.file.lines.length
            = plan.stats.observed + 1 + plan.stats.remaining := by
  intro table trace
  have hrun := Simulation.yields_run hvalid hmap hcontents htext hcapture
  refine ⟨⟨_, hrun.1, rfl⟩, fun entries hentries => ?_⟩
  intro plan
  have htrace : ∀ symbol ∈ trace, symbol ∈ table.symbols :=
    fun symbol h => Resolution.mem_symbols_of_mem_resolve h
  -- symbols come from lines of the link map, so they can be lines again
  have hstays : ∀ symbol ∈ table.symbols, StaysInLine symbol :=
    fun symbol h => LinkMap.staysInLine_of_mem_scanLines
      (fun line hline => LinkMap.endsLine_of_mem_streamedLines hline) h
  have hentry : ∀ entry ∈ plan.entries, EndsLine entry.line.toList :=
    fun entry h => Order.endsLine_line
      (hstays _ (Order.mem_symbols_of_mem_entries hentries htrace h))
  refine ⟨OrderFile.readsBack fun line hline => ?_, ?_⟩
  · rcases List.mem_append.1 hline with hobserved | hline
    · obtain ⟨entry, h, rfl⟩ := List.mem_map.1 hobserved
      exact hentry entry (List.mem_append_left _ h)
    rcases List.mem_cons.1 hline with rfl | hremaining
    · decide
    · obtain ⟨entry, h, rfl⟩ := List.mem_map.1 hremaining
      exact hentry entry (List.mem_append_right _ h)
  · show (plan.observed.map Order.Entry.line ++ OrderFile.separator
      :: plan.remaining.map Order.Entry.line).length = _
    rw [List.length_append, List.length_cons, List.length_map,
      List.length_map, Nat.add_right_comm]
    rfl

/-- A link map with line ends of all kinds. Two symbols have no name, one
has tabs and carriage returns in its, and one ends in a byte that starts no
character. -/
def oddNames : List UInt8 :=
  Utf8.encode ("# Object files:\r\n[  0] /b/x.o\n[  1] /b/y.o\n"
    ++ "# Sections:\n0x1000\t0x100\t__TEXT\t__text\n"
    ++ "# Symbols:\n0x1000\t0x10\t[  0] \r\n0x1010\t0x10\t[  1] \n"
    ++ "0x1020\t0x10\t[  0] a\t\rb\r\r\n0x1030\t0x10\t[  1] c").toList
    ++ [0xff]

/-- A capture that meets the second symbol without a name. -/
def oddCapture : String :=
  "\x7b\"addresses\":[4112],\"loadedImages\":"
    ++ "[\x7b\"path\":\"/app\",\"loadAddress\":0,\"slide\":0\x7d]\x7d"

/-- The two in files of their own. -/
def oddSurroundings : Surroundings where
  files :=
    { nodes :=
        [(["map"], .file oddNames),
          (["capture"], .file (Utf8.encode oddCapture.toList))]
      workingDirectory := [] }

/-- Of the two empty names the one that was met is written with its object
file; and names with tabs and carriage returns in them are read back as
they were. -/
theorem run_reads_back_oddNames :
    let config : Config := { remainingOrder := .address }
    ∃ output : Pipeline.Output,
      ((Pipeline.run .nowhere config "/map" "/capture"
        : ExceptT Pipeline.Error Simulation _).run oddSurroundings).1
          = .ok output
      ∧ output.file.ReadsBack
      ∧ output.file.lines
        = ["y.o:", "# begin remaining symbol", "a\t\rb", "c\ufffd"] := by
  intro config
  have hmap : Log.Sink.nowhere.Keeps oddSurroundings.files "/map"
      oddNames := ⟨rfl, trivial⟩
  have hcontents : Log.Sink.nowhere.Keeps oddSurroundings.files "/capture"
      (Utf8.encode oddCapture.toList) := ⟨rfl, trivial⟩
  have hcapture : Capture.ofJson (String.ofList oddCapture.toList)
      = .ok ⟨[4112], [⟨"/app", 0, 0⟩]⟩ := by decide +kernel
  have hsymbols : (LinkMap.scanBytes config.eligibility
      oddNames).table.symbols
        = [⟨"", .ofDescriptor "/b/x.o"⟩, ⟨"", .ofDescriptor "/b/y.o"⟩,
          ⟨"a\t\rb", .ofDescriptor "/b/x.o"⟩,
          ⟨"c\ufffd", .ofDescriptor "/b/y.o"⟩] := by
    decide +kernel
  have htrace : (Capture.resolve ⟨[4112], [⟨"/app", 0, 0⟩]⟩
      (LinkMap.scanBytes config.eligibility oddNames).table).symbols
        = [⟨"", .ofDescriptor "/b/y.o"⟩] := by
    decide +kernel
  obtain ⟨⟨output, hrun, hplan⟩, hreads⟩ :=
    @run_reads_back config (by decide) _ _ _ _ _ _ _ _ hmap hcontents
      (Utf8.decode?_encode _) hcapture
  have hfile : output.file = output.plan.file := rfl
  refine ⟨output, hrun, ?_, ?_⟩
  · rw [hfile, hplan]
    exact (hreads _ (.refl _)).1
  · rw [hfile, hplan, Order.planOf_address (.refl _), hsymbols, htrace]
    unfold Order.Plan.file
    rw [Order.plan_observed, Order.plan_remaining]
    decide +kernel

end LinkOrder
