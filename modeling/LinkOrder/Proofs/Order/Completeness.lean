/-
Order files are complete, and speak of nothing twice: whatever was
observed, and in whatever order the table is enumerated, each name that
may be ordered is written for exactly one symbol, and no other name is
written at all.

The layout is a row of emissions over the trace and then over the whole
table (`planOf_of_perm`), so its emitters are the first of each name in
the one row behind the other; the names of that row are the eligible names
of the table, since a trace of the table's own symbols adds none.
-/
import LinkOrder.Proofs.Order.Emission

namespace LinkOrder.Order

variable (rule : Eligibility) (order : RemainingOrder) {table : Table}
variable {entries : List (UInt64 × Symbol)} {trace : List Symbol}

-- ===================================================== enumerations

/-- A layout walks the table in some order of its own when the trace is
over. -/
theorem planOf_eq_plan (entries : List (UInt64 × Symbol))
    (trace : List Symbol) :
    ∃ tail : List Symbol, tail.Perm (entries.map Prod.snd)
      ∧ planOf rule order entries trace
        = plan rule (entries.map Prod.snd) tail trace := by
  cases order with
  | unspecified => exact ⟨_, List.Perm.refl _, rfl⟩
  | address => exact ⟨_, (List.mergeSort_perm _ _).map Prod.snd, rfl⟩

/-- Which entry a symbol has does not depend on how the table is
enumerated. -/
theorem entryOf_perm {l k : List Symbol} (h : l.Perm k) :
    entryOf rule l = entryOf rule k := by
  funext s
  unfold entryOf
  rw [carriers_perm h]

/-- Nor does which symbols of a row emit. -/
theorem emitters_perm {l k : List Symbol} (h : l.Perm k)
    (reached row : List Symbol) :
    emitters rule l reached row = emitters rule k reached row := by
  have hclaimed : ∀ before s,
      Claimed rule l before s ↔ Claimed rule k before s := by
    intro before s
    unfold Claimed
    simp only [h.mem_iff]
  induction row generalizing reached with
  | nil => rfl
  | cons s rest ih => simp only [emitters, hclaimed, ih]

/-- So the order in which the groups were gathered does not show in a
layout. -/
theorem plan_perm {l k : List Symbol} (h : l.Perm k)
    (tail trace : List Symbol) :
    plan rule l tail trace = plan rule k tail trace := by
  have hobserved : (plan rule l tail trace).observed
      = (plan rule k tail trace).observed := by
    rw [plan_observed, plan_observed, entryOf_perm rule h,
      emitters_perm rule h]
  have hremaining : (plan rule l tail trace).remaining
      = (plan rule k tail trace).remaining := by
    rw [plan_remaining, plan_remaining, entryOf_perm rule h,
      emitters_perm rule h]
  show Plan.mk (plan rule l tail trace).observed
    (plan rule l tail trace).remaining = _
  rw [hobserved, hremaining]

/-- Of an enumeration of a table only the order shows in which the table
is walked when the trace is over. -/
theorem exists_planOf_eq_plan (hentries : entries.Perm table.toList)
    (trace : List Symbol) :
    ∃ tail : List Symbol, tail.Perm table.symbols
      ∧ planOf rule order entries trace
        = plan rule table.symbols tail trace := by
  have hsymbols : (entries.map Prod.snd).Perm table.symbols :=
    hentries.map Prod.snd
  obtain ⟨tail, htail, hplan⟩ := planOf_eq_plan rule order entries trace
  exact ⟨tail, htail.trans hsymbols,
    hplan.trans (plan_perm rule hsymbols tail trace)⟩

/-- What remains behind any trace: of the table, in the order of the walk,
the first of each name that the trace lacks. -/
theorem plan_remaining_of_perm {tail : List Symbol}
    (htail : tail.Perm table.symbols) (trace : List Symbol) :
    (plan rule table.symbols tail trace).remaining
      = ((firstNamed (tail.filter rule.admits)).filter fun s =>
          s.name ∉ names (trace.filter rule.admits)).map
            (entryOf rule table.symbols) := by
  rw [plan_remaining, emitters_of_subset fun s hs => htail.mem_iff.1 hs]

/-- The layout of a trace of the table's own symbols: of the trace the
first of each name, and then of the table, in some order, the first of
each name that the trace lacks. -/
theorem planOf_of_perm (hentries : entries.Perm table.toList)
    (htrace : ∀ s ∈ trace, s ∈ table.symbols) :
    ∃ tail : List Symbol, tail.Perm table.symbols
      ∧ (planOf rule order entries trace).observed
        = (firstNamed (trace.filter rule.admits)).map
            (entryOf rule table.symbols)
      ∧ (planOf rule order entries trace).remaining
        = ((firstNamed (tail.filter rule.admits)).filter fun s =>
            s.name ∉ names (trace.filter rule.admits)).map
              (entryOf rule table.symbols) := by
  obtain ⟨tail, htail, hplan⟩ :=
    exists_planOf_eq_plan rule order hentries trace
  refine ⟨tail, htail, ?_, ?_⟩
  · -- nothing was reached before the trace, so nothing is filtered out
    rw [hplan, plan_observed, emitters_of_subset htrace]
    simp
  · rw [hplan, plan_remaining_of_perm rule htail]

/-- What a row of entries was emitted by. -/
theorem map_symbol_entryOf (symbols row : List Symbol) :
    (row.map (entryOf rule symbols)).map Entry.symbol = row := by
  rw [List.map_map]
  exact List.map_id row

/-- How a row of entries is written. -/
theorem map_line_entryOf (symbols row : List Symbol) :
    (row.map (entryOf rule symbols)).map Entry.line
      = row.map (lineOf rule symbols) := by
  rw [List.map_map]
  exact List.map_congr_left fun s _ => line_entryOf rule symbols s

-- ==================================================== completeness

/-- The row of which the emitters are the first of each name. -/
theorem planOf_entries (hentries : entries.Perm table.toList)
    (htrace : ∀ s ∈ trace, s ∈ table.symbols) :
    ∃ row : List Symbol, (∀ s, s ∈ row ↔ s ∈ table.symbols)
      ∧ (planOf rule order entries trace).entries
        = (firstNamed (row.filter rule.admits)).map
            (entryOf rule table.symbols) := by
  obtain ⟨tail, htail, hobserved, hremaining⟩ :=
    planOf_of_perm rule order hentries htrace
  refine ⟨trace ++ tail, fun s => ?_, ?_⟩
  · rw [List.mem_append, htail.mem_iff]
    exact or_iff_right_of_imp (htrace s)
  · -- the tail lacks the names of the trace, and so they are the first of each
    -- name in one row
    unfold Plan.entries
    rw [hobserved, hremaining, List.filter_append, firstNamed_append,
      List.map_append]

/-- The names that are written are those of the symbols that may be
ordered, each once. -/
theorem names_planOf (hentries : entries.Perm table.toList)
    (htrace : ∀ s ∈ trace, s ∈ table.symbols) :
    let emitted := (planOf rule order entries trace).entries.map Entry.symbol
    (names emitted).Nodup
      ∧ ∀ name, name ∈ names emitted
        ↔ ∃ s ∈ table.symbols, rule.admits s ∧ s.name = name := by
  intro emitted
  obtain ⟨row, hrow, hplan⟩ := planOf_entries rule order hentries htrace
  have hemitted : emitted = firstNamed (row.filter rule.admits) := by
    show (planOf rule order entries trace).entries.map Entry.symbol = _
    rw [hplan, map_symbol_entryOf]
  rw [hemitted]
  refine ⟨nodup_names_firstNamed _, fun name => ?_⟩
  rw [mem_names_firstNamed, mem_names]
  simp only [List.mem_filter, hrow, and_assoc]

/-- There are as many entries as names that may be ordered. -/
theorem size_planOf (hentries : entries.Perm table.toList)
    (htrace : ∀ s ∈ trace, s ∈ table.symbols) :
    (planOf rule order entries trace).file.size
      = (eligibleNames rule table.symbols).card := by
  obtain ⟨hnodup, hnames⟩ := names_planOf rule order hentries htrace
  have hcard : (names ((planOf rule order entries trace).entries.map
      Entry.symbol)).toFinset = eligibleNames rule table.symbols := by
    ext name
    rw [List.mem_toFinset, hnames, mem_eligibleNames]
  -- no name comes twice, so entries are counted by their names
  rw [← hcard, List.toFinset_card_of_nodup hnodup]
  simp [OrderFile.size, Plan.file, names, Plan.entries]

/-- Whatever the enumeration of the table, the order of the tail and the
trace of the table's symbols: the entries of an order file are written
for symbols of the table, no two of them for symbols of one name, and the
names are those of the symbols that may be ordered. Each line is the name
of its symbol, behind the `file.o` of the symbol's own object file only
where several entries that may be ordered carry the name. -/
theorem planOf_complete (hentries : entries.Perm table.toList)
    (htrace : ∀ s ∈ trace, s ∈ table.symbols) :
    let plan := planOf rule order entries trace
    let emitted := plan.entries.map Entry.symbol
    plan.file.observed ++ plan.file.remaining
        = emitted.map (lineOf rule table.symbols)
      ∧ (∀ s ∈ emitted, s ∈ table.symbols)
      ∧ (names emitted).Nodup
      ∧ (∀ name, name ∈ names emitted
          ↔ ∃ s ∈ table.symbols, rule.admits s ∧ s.name = name)
      ∧ plan.file.size = (eligibleNames rule table.symbols).card := by
  intro plan emitted
  obtain ⟨row, hrow, hplan⟩ := planOf_entries rule order hentries htrace
  obtain ⟨hnodup, hnames⟩ := names_planOf rule order hentries htrace
  have hemitted : emitted = firstNamed (row.filter rule.admits) := by
    show plan.entries.map Entry.symbol = _
    rw [hplan, map_symbol_entryOf]
  refine ⟨?_, ?_, hnodup, hnames, size_planOf rule order hentries htrace⟩
  · show plan.observed.map Entry.line ++ plan.remaining.map Entry.line = _
    rw [← List.map_append, hemitted, ← map_line_entryOf, ← hplan]
    rfl
  · intro s hs
    rw [hemitted] at hs
    have hmem := (firstNamed_sublist _).subset hs
    exact (hrow s).1 (List.mem_of_mem_filter hmem)

/-- A table in which two object files carry a name, one of them at two
addresses, among a local symbol and one of a library. -/
def sharedNameTable : Table :=
  [(0x1000, ⟨"_a", .ofDescriptor "/b/x.o"⟩),
    (0x1010, ⟨"_a", .ofDescriptor "/b/y.o"⟩),
    (0x1020, ⟨"_a", .ofDescriptor "/b/x.o"⟩),
    (0x1030, ⟨"ltmp0", .ofDescriptor "/b/x.o"⟩),
    (0x1040, ⟨"_ad", .ofDescriptor "/sdk/libAds.a(ad.o)"⟩),
    (0x1050, ⟨"_b", .ofDescriptor "linker synthesized"⟩)].foldl
      (fun table row => table.insert row.1 row.2)
      (.ofBounds ⟨0x1000, 0x100⟩)

/-- A trace of it that repeats itself and meets a local symbol. -/
def sharedNameTrace : List Symbol :=
  [⟨"ltmp0", .ofDescriptor "/b/x.o"⟩, ⟨"_a", .ofDescriptor "/b/y.o"⟩,
    ⟨"_a", .ofDescriptor "/b/x.o"⟩, ⟨"_a", .ofDescriptor "/b/y.o"⟩]

/-- Walked backwards, and behind a trace that says things twice: the six
entries have two names that may be ordered, so there are two lines. -/
theorem planOf_complete_sharedName :
    sharedNameTable.toList.reverse.Perm sharedNameTable.toList
      ∧ (∀ s ∈ sharedNameTrace, s ∈ sharedNameTable.symbols)
      ∧ (planOf ⟨["libAds"]⟩ .unspecified sharedNameTable.toList.reverse
          sharedNameTrace).file.size = 2 := by
  have hentries := List.reverse_perm sharedNameTable.toList
  have htrace : ∀ s ∈ sharedNameTrace, s ∈ sharedNameTable.symbols := by
    decide
  obtain ⟨-, -, -, -, hsize⟩ :=
    planOf_complete ⟨["libAds"]⟩ .unspecified hentries htrace
  refine ⟨hentries, htrace, hsize.trans ?_⟩
  decide

end LinkOrder.Order
