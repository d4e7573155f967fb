/-
Whether the lines of an order file can be told apart. No two entries are
written for one name, but names are written as they are found; so a name
may read like the separator, or like the `file.o:name` of another entry,
and a line then stands in the file twice.

Nothing else makes two lines one. Entries written by their names alone
differ as the names do, and an entry written with an object file has a
colon, which the separator lacks. The lines of a file are therefore
distinct exactly if no entry that is written by its name alone has the
separator for a name, and no entry written with an object file reads like
another (`nodup_lines_iff`). Where no name of the table is the separator
or has a `.o:` in it neither can happen (`nodup_lines_of_plain`).
-/
import LinkOrder.Pipeline
import LinkOrder.Proofs.LinkMap.Consumed
import LinkOrder.Proofs.Order.Enumeration
import LinkOrder.Proofs.Resolution.Attribution

namespace LinkOrder

namespace Order

-- ================================================= names behind names

/-- If what is in front of a colon ends in `.o`, and so does that with the
colon and more behind it, then there is a `.o:` behind the colon. -/
theorem infix_of_suffix_append_colon {front between : List Char}
    (h : ".o".toList <:+ front ++ ':' :: between) (rest : List Char) :
    ".o:".toList <:+: between ++ ':' :: rest := by
  have hbehind : ':' :: between <:+ front ++ ':' :: between :=
    List.suffix_append _ _
  have hend : ".o".toList <:+ between := by
    cases between with
    | nil =>
        have hcolon := List.suffix_of_suffix_length_le hbehind h (by decide)
        exact absurd hcolon (by decide)
    | cons c between =>
        have hsuffix := List.suffix_of_suffix_length_le h hbehind (by simp)
        rcases List.suffix_cons_iff.1 hsuffix with heq | hend
        · exact absurd (List.cons.inj heq).1 (by decide)
        · exact hend
  obtain ⟨start, rfl⟩ := hend
  exact ⟨start, rest, by simp⟩

/-- A name without a `.o:` is known from what it gives behind the name of
an object file. -/
theorem eq_of_append_colon_eq {file file' name name' : List Char}
    (hfile : ".o".toList <:+ file) (hfile' : ".o".toList <:+ file')
    (hname : ¬ ".o:".toList <:+: name) (hname' : ¬ ".o:".toList <:+: name')
    (h : file ++ ':' :: name = file' ++ ':' :: name') : name = name' := by
  -- either the colons meet, or one of them is inside the other name
  rcases List.append_eq_append_iff.1 h with
    ⟨between, rfl, hrest⟩ | ⟨between, rfl, hrest⟩
  · cases between with
    | nil => exact (List.cons.inj hrest).2
    | cons c between =>
        obtain ⟨rfl, rfl⟩ := List.cons.inj hrest
        exact absurd (infix_of_suffix_append_colon hfile' name') hname
  · cases between with
    | nil => exact (List.cons.inj hrest).2.symm
    | cons c between =>
        obtain ⟨rfl, rfl⟩ := List.cons.inj hrest
        exact absurd (infix_of_suffix_append_colon hfile name) hname'

-- ===================================================== single entries

namespace Entry

/-- The entry is written with an object file and reads like one of another
name. -/
def ReadsLike (entry other : Entry) : Prop :=
  entry.isQualified ∧ entry.symbol.name ≠ other.symbol.name
    ∧ entry.line = other.line

/-- Without an object file an entry is written by its name alone. -/
theorem line_of_not_isQualified {entry : Entry}
    (h : entry.isQualified = false) : entry.line = entry.symbol.name := by
  unfold isQualified at h
  unfold line Symbol.qualifiedName
  cases hcollision : entry.isCollision with
  | false => rfl
  | true =>
      rw [hcollision, Bool.true_and, Option.isSome_eq_false_iff,
        Option.isNone_iff_eq_none] at h
      rw [h]
      rfl

/-- With one it is the name of that, a colon, and its own name. -/
theorem line_of_isQualified {entry : Entry} (h : entry.isQualified) :
    ∃ file : String, ".o".toList <:+ file.toList
      ∧ entry.line = file ++ ":" ++ entry.symbol.name := by
  unfold isQualified at h
  rw [Bool.and_eq_true] at h
  obtain ⟨hcollision, hsome⟩ := h
  obtain ⟨file, hfile⟩ := Option.isSome_iff_exists.1 hsome
  refine ⟨file, ?_, ?_⟩
  · unfold ObjectFile.qualifier? at hfile
    split at hfile
    · next hsuffix =>
        cases hfile
        exact List.isSuffixOf_iff_suffix.1 hsuffix
    · cases hfile
  · unfold line Symbol.qualifiedName
    rw [if_pos hcollision, hfile]

/-- An entry reads like the separator only if that is its name. -/
theorem line_eq_separator_iff {entry : Entry} :
    entry.line = OrderFile.separator
      ↔ entry.isQualified = false
        ∧ entry.symbol.name = OrderFile.separator := by
  cases hqualified : entry.isQualified with
  | false => simp [line_of_not_isQualified hqualified]
  | true =>
      obtain ⟨file, -, hline⟩ := line_of_isQualified hqualified
      have hcolon : ':' ∉ OrderFile.separator.toList := by decide
      simp only [Bool.true_eq_false, false_and, iff_false]
      intro hseparator
      rw [← hseparator, hline] at hcolon
      simp at hcolon

/-- Of two entries in one line, for different names, one reads like the
other. -/
theorem readsLike_or_of_line_eq {entry other : Entry}
    (hname : entry.symbol.name ≠ other.symbol.name)
    (hline : entry.line = other.line) :
    entry.ReadsLike other ∨ other.ReadsLike entry := by
  cases hentry : entry.isQualified with
  | true => exact .inl ⟨hentry, hname, hline⟩
  | false =>
      cases hother : other.isQualified with
      | true => exact .inr ⟨hother, hname.symm, hline.symm⟩
      | false =>
          rw [line_of_not_isQualified hentry,
            line_of_not_isQualified hother] at hline
          exact absurd hline hname

/-- Entries whose names have no `.o:` in them do not read like others. -/
theorem not_readsLike_of_plain {entry other : Entry}
    (h : ¬ ".o:".toList <:+: entry.symbol.name.toList)
    (h' : ¬ ".o:".toList <:+: other.symbol.name.toList) :
    ¬ entry.ReadsLike other := by
  intro hreads
  obtain ⟨hqualified, hname, hline⟩ := hreads
  obtain ⟨file, hfile, hentry⟩ := line_of_isQualified hqualified
  -- the other entry may be written by its name, which has no `.o:`, or with an
  -- object file of its own
  cases hother : other.isQualified with
  | false =>
      rw [hentry, line_of_not_isQualified hother] at hline
      obtain ⟨start, hstart⟩ := hfile
      refine h' ⟨start, entry.symbol.name.toList, ?_⟩
      rw [← hline, String.toList_append, String.toList_append, ← hstart]
      simp
  | true =>
      obtain ⟨file', hfile', hother⟩ := line_of_isQualified hother
      rw [hentry, hother] at hline
      have htexts := congrArg String.toList hline
      simp only [String.toList_append] at htexts
      refine hname (String.toList_inj.1 ?_)
      refine eq_of_append_colon_eq hfile hfile' h h' ?_
      simpa using htexts

end Entry

-- ========================================================= whole plans

namespace Plan

/-- The lines of a plan in which no name comes up twice are distinct
exactly if no entry that is written by its name alone has the name of the
separator, and none that is written with an object file reads like
another. -/
theorem nodup_lines_iff {plan : Plan}
    (hnames : (names (plan.entries.map Entry.symbol)).Nodup) :
    plan.file.lines.Nodup
      ↔ (∀ entry ∈ plan.entries,
          entry.symbol.name = OrderFile.separator → entry.isQualified)
        ∧ ∀ entry ∈ plan.entries, ∀ other ∈ plan.entries,
          ¬ entry.ReadsLike other := by
  unfold names at hnames
  rw [List.map_map] at hnames
  -- the separator stands between the entries, and they among themselves
  have hlines : plan.file.lines.Nodup
      ↔ OrderFile.separator ∉ plan.entries.map Entry.line
        ∧ (plan.entries.map Entry.line).Nodup := by
    show (plan.observed.map Entry.line
      ++ OrderFile.separator :: plan.remaining.map Entry.line).Nodup ↔ _
    rw [List.nodup_middle, List.nodup_cons, ← List.map_append]
    rfl
  have hseparator : OrderFile.separator ∉ plan.entries.map Entry.line
      ↔ ∀ entry ∈ plan.entries,
        entry.symbol.name = OrderFile.separator → entry.isQualified := by
    simp only [List.mem_map, not_exists, not_and,
      Entry.line_eq_separator_iff]
    refine forall₂_congr fun entry _ => ?_
    cases entry.isQualified <;> simp
  have hentries : (plan.entries.map Entry.line).Nodup
      ↔ ∀ entry ∈ plan.entries, ∀ other ∈ plan.entries,
        ¬ entry.ReadsLike other := by
    rw [List.nodup_map_iff_inj_on hnames.of_map]
    constructor
    · intro hinj entry hentry other hother hreads
      obtain ⟨-, hname, hline⟩ := hreads
      exact hname (by rw [hinj entry hentry other hother hline])
    · intro hreads entry hentry other hother hline
      by_contra hne
      have hname : entry.symbol.name ≠ other.symbol.name := fun heq =>
        hne (List.inj_on_of_nodup_map hnames hentry hother heq)
      rcases Entry.readsLike_or_of_line_eq hname hline with h | h
      · exact hreads entry hentry other hother h
      · exact hreads other hother entry hentry h
  rw [hlines, hseparator, hentries]

/-- Where no name is that of the separator or has a `.o:` in it, the lines
are distinct. -/
theorem nodup_lines_of_plain {plan : Plan}
    (hnames : (names (plan.entries.map Entry.symbol)).Nodup)
    (hplain : ∀ name ∈ names (plan.entries.map Entry.symbol),
      name ≠ OrderFile.separator ∧ ¬ ".o:".toList <:+: name.toList) :
    plan.file.lines.Nodup := by
  have hentry : ∀ entry ∈ plan.entries,
      entry.symbol.name ∈ names (plan.entries.map Entry.symbol) :=
    fun entry h => name_mem_names (List.mem_map_of_mem h)
  refine (nodup_lines_iff hnames).2 ⟨fun entry h heq => ?_,
    fun entry h other h' => ?_⟩
  · exact absurd heq (hplain _ (hentry entry h)).1
  · exact Entry.not_readsLike_of_plain (hplain _ (hentry entry h)).2
      (hplain _ (hentry other h')).2

end Plan

end Order

-- ======================================================= the pipeline

/-- With a valid configuration the pipeline has a result. -/
theorem Pipeline.runInMemory_of_valid {config : Config}
    (hvalid : config.validate = .ok ()) (linkMap : String)
    (capture : Capture) :
    runInMemory config linkMap capture
      = .ok (assemble config (LinkMap.scanText config.eligibility linkMap)
        capture) := by
  unfold runInMemory
  rw [hvalid]
  rfl

/-- For every valid configuration, link map text and capture there is an
order file, and, however the table is enumerated, its lines are pairwise
distinct exactly if none of its entries written by the name alone is for a
symbol named like the separator, and none written with an object file
reads like another. So they are wherever no symbol of the table has such a
name, or one with a `.o:` in it. -/
theorem nodup_lines_runInMemory_iff {config : Config}
    (hvalid : config.validate = .ok ()) (linkMap : String)
    (capture : Capture) :
    ∃ output, Pipeline.runInMemory config linkMap capture = .ok output
      ∧ output.file = (Order.planOf config.eligibility config.remainingOrder
          output.scan.table.toList output.resolution.symbols).file
      ∧ ∀ entries : List (UInt64 × Symbol),
        entries.Perm output.scan.table.toList →
        let plan := Order.planOf config.eligibility config.remainingOrder
          entries output.resolution.symbols
        (plan.file.lines.Nodup
          ↔ (∀ entry ∈ plan.entries,
              entry.symbol.name = OrderFile.separator → entry.isQualified)
            ∧ ∀ entry ∈ plan.entries, ∀ other ∈ plan.entries,
              ¬ entry.ReadsLike other)
        ∧ ((∀ symbol ∈ output.scan.table.symbols,
              symbol.name ≠ OrderFile.separator
                ∧ ¬ ".o:".toList <:+: symbol.name.toList) →
            plan.file.lines.Nodup) := by
  let output := Pipeline.assemble config
    (LinkMap.scanText config.eligibility linkMap) capture
  refine ⟨output, Pipeline.runInMemory_of_valid hvalid linkMap capture, rfl,
    fun entries hentries => ?_⟩
  have htrace : ∀ symbol ∈ output.resolution.symbols,
      symbol ∈ output.scan.table.symbols :=
    fun symbol h => Resolution.mem_symbols_of_mem_resolve h
  obtain ⟨hnodup, hnames⟩ := Order.names_planOf config.eligibility
    config.remainingOrder hentries htrace
  refine ⟨Order.Plan.nodup_lines_iff hnodup, fun hplain => ?_⟩
  refine Order.Plan.nodup_lines_of_plain hnodup fun name hname => ?_
  obtain ⟨symbol, hsymbol, -, rfl⟩ := (hnames name).1 hname
  exact hplain symbol hsymbol

/-- A link map of two symbols of one name. -/
def sharedNameMap : String :=
  "# Object files:\n[  0] /b/a.o\n[  1] /b/b.o\n"
    ++ "# Sections:\n0x1000\t0x100\t__TEXT\t__text\n"
    ++ "# Symbols:\n0x1000\t0x10\t[  0] _f\n0x1010\t0x10\t[  1] _f\n"

/-- A capture of the first of them. -/
def sharedNameCapture : Capture := ⟨[0x1000], [⟨"/app", 0, 0⟩]⟩

/-- By themselves these make a file of distinct lines. -/
theorem nodup_lines_runInMemory_sharedName :
    (Config.validate {} = .ok ())
      ∧ ∃ output,
        Pipeline.runInMemory {} sharedNameMap sharedNameCapture = .ok output
          ∧ (∀ symbol ∈ output.scan.table.symbols,
              symbol.name ≠ OrderFile.separator
                ∧ ¬ ".o:".toList <:+: symbol.name.toList)
          ∧ output.file.lines.Nodup := by
  have hvalid : Config.validate {} = .ok () := by decide
  obtain ⟨output, hrun, hfile, hlines⟩ :=
    nodup_lines_runInMemory_iff hvalid sharedNameMap sharedNameCapture
  have houtput := Except.ok.inj (hrun.symm.trans
    (Pipeline.runInMemory_of_valid hvalid sharedNameMap sharedNameCapture))
  have hsymbols : output.scan.table.symbols
      = [⟨"_f", .ofDescriptor "/b/a.o"⟩, ⟨"_f", .ofDescriptor "/b/b.o"⟩] := by
    rw [houtput]
    decide +kernel
  have hplain : ∀ symbol ∈ output.scan.table.symbols,
      symbol.name ≠ OrderFile.separator
        ∧ ¬ ".o:".toList <:+: symbol.name.toList := by
    rw [hsymbols]
    decide
  refine ⟨hvalid, output, hrun, hplain, ?_⟩
  rw [hfile]
  exact (hlines _ (.refl _)).2 hplain

/-- The link map with two more symbols, one named as the first is written
and one named like the separator. -/
def repeatingMap : String :=
  sharedNameMap ++ "0x1020\t0x10\t[  0] a.o:_f\n"
    ++ "0x1030\t0x10\t[  0] # begin remaining symbol\n"

/-- Now each line stands in the file twice, the separator among them. -/
theorem lines_repeated :
    let config : Config := { remainingOrder := .address }
    config.validate = .ok ()
      ∧ ∃ output,
        Pipeline.runInMemory config repeatingMap sharedNameCapture
            = .ok output
          ∧ output.file.lines
            = ["a.o:_f", OrderFile.separator, "a.o:_f", OrderFile.separator]
          ∧ ¬ output.file.lines.Nodup := by
  intro config
  have hvalid : config.validate = .ok () := by decide
  let output := Pipeline.assemble config
    (LinkMap.scanText config.eligibility repeatingMap) sharedNameCapture
  have hsymbols : output.scan.table.symbols
      = [⟨"_f", .ofDescriptor "/b/a.o"⟩, ⟨"_f", .ofDescriptor "/b/b.o"⟩,
        ⟨"a.o:_f", .ofDescriptor "/b/a.o"⟩,
        ⟨OrderFile.separator, .ofDescriptor "/b/a.o"⟩] := by
    decide +kernel
  have htrace : output.resolution.symbols
      = [⟨"_f", .ofDescriptor "/b/a.o"⟩] := by
    decide +kernel
  have hfile : output.file = (Order.planOf config.eligibility .address
      output.scan.table.toList output.resolution.symbols).file := rfl
  have hlines : output.file.lines
      = ["a.o:_f", OrderFile.separator, "a.o:_f", OrderFile.separator] := by
    rw [hfile, Order.planOf_address (.refl _), hsymbols, htrace]
    unfold Order.Plan.file
    rw [Order.plan_observed, Order.plan_remaining]
    decide +kernel
  refine ⟨hvalid, output, Pipeline.runInMemory_of_valid hvalid _ _,
    hlines, ?_⟩
  rw [hlines]
  decide

end LinkOrder
