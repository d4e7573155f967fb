/-
What a scan counts. Each line of the symbols amounts to one thing
(`SymbolLine`), and the counters of a scan are what its lines amount to,
counted one kind each (`Tallies`): short lines and lines with a bad address
or an unknown object file are malformed, the filtered are counted as such,
and of the others those inside the bounds are recorded. One line keeps this
(`Tallies.step`), whatever part the scan stands in and however its lines
are mixed; so any reading does (`Tallies.readOn`).

Every line that starts with `0x` is of exactly one of these kinds
(`countP_ne_other`), and in a run the only one outside the bounds is the
line that ends it. So the counters add up to the lines that were read
(`stats_scanLines`), though neither those with three fields nor those left
in the table do: short lines have too few fields to be symbol lines, and an
entry made twice is recorded twice.
-/
import LinkOrder.Proofs.LinkMap.Consumed

namespace LinkOrder.LinkMap

-- ======================================================= kinds of lines

namespace SymbolLine

/-- What a line with three fields amounts to. -/
def hasFields : SymbolLine → Bool
  | other | short => false
  | badAddress | unknownObject _ _ | filtered | recordable _ _ => true

/-- What is counted as malformed. -/
def isMalformed : SymbolLine → Bool
  | short | badAddress | unknownObject _ _ => true
  | other | filtered | recordable _ _ => false

/-- The entry to be made, its place in the text section aside. -/
def row? : SymbolLine → Option (UInt64 × Symbol)
  | recordable address symbol => some (address, symbol)
  | other | short | badAddress | unknownObject _ _ | filtered => none

variable {rule : Eligibility} {objects : Array ObjectFile}
  {line : List Char}

/-- Symbol lines start with `0x`, and all that do are counted. -/
theorem read_ne_other_iff :
    read rule objects line ≠ other ↔ ['0', 'x'] <+: line := by
  unfold read
  rw [← List.isPrefixOf_iff_prefix]
  split
  · next hstart =>
      refine iff_of_true ?_ hstart
      split
      · nofun
      · split
        · nofun
        · dsimp only
          split
          · nofun
          · split <;> nofun
  · next hstart =>
      exact iff_of_false (fun hne => hne rfl) hstart

/-- Of these the ones with two tabs have three fields. -/
theorem hasFields_read_iff :
    (read rule objects line).hasFields
      ↔ ['0', 'x'] <+: line ∧ 2 ≤ line.count '\t' := by
  rw [← List.isPrefixOf_iff_prefix, ← exists_fields_iff]
  simp only [← threeFields?_eq_some_iff]
  unfold read
  split
  · next hstart =>
      cases hfields : threeFields? line with
      | none => simp [hasFields]
      | some fields =>
          obtain ⟨first, second, third⟩ := fields
          refine iff_of_true ?_ ⟨hstart, first, second, third, rfl⟩
          dsimp only
          split
          · rfl
          · split
            · rfl
            · split <;> rfl
  · next hstart => simp [hasFields, hstart]

/-- A line is malformed, or filtered, or makes an entry, or is no symbol
line. -/
theorem countP_ne_other (readings : List SymbolLine) :
    readings.countP (· ≠ other)
      = readings.countP isMalformed + readings.countP (· = filtered)
        + (readings.filterMap row?).length := by
  -- each kind of reading is counted by one of the three
  induction readings with
  | nil => rfl
  | cons reading rest ih =>
      rw [List.countP_cons, List.countP_cons, List.countP_cons, ih]
      cases reading <;>
        simp [List.filterMap_cons, row?, isMalformed] <;> omega

end SymbolLine

-- ============================================================= readings

/-- What the lines of the symbols amount to. -/
def readings (rule : Eligibility) (lines : List (List Char)) :
    List SymbolLine :=
  (contents .symbols lines).map
    (SymbolLine.read rule (listedObjects lines).toArray)

/-- Entries and counters are read off the same row of readings. -/
theorem rows_eq_filterMap_readings (rule : Eligibility)
    (lines : List (List Char)) :
    rows rule lines = (readings rule lines).filterMap SymbolLine.row? := by
  unfold rows readings
  rw [List.filterMap_map]
  refine List.filterMap_congr fun line _ => ?_
  show rowOf? rule _ line = (SymbolLine.read rule _ line).row?
  unfold rowOf?
  cases SymbolLine.read rule (listedObjects lines).toArray line <;> rfl

section
variable {rule : Eligibility} {scan : Scan} {lines : List (List Char)}
  {line : List Char}

/-- Without symbol lines there is nothing to count. -/
theorem readings_eq_nil (h : contents .symbols lines = []) :
    readings rule lines = [] := by
  unfold readings
  rw [h]
  rfl

/-- Behind the marker of the symbols a line adds what it amounts to. -/
theorem readings_concat (h : Part.inForce lines = .symbols)
    (line : List Char) :
    readings rule (lines ++ [line])
      = readings rule lines
        ++ [.read rule (listedObjects lines).toArray line] := by
  unfold readings
  rw [listedObjects_concat_of_ne (by simp [h]), contents_append_of_symbols h,
    List.map_append]
  rfl

-- ======================================================== the invariant

/-- The counters of a scan that has read the lines, all of them. -/
structure Tallies (rule : Eligibility) (scan : Scan)
    (lines : List (List Char)) : Prop where
  symbolLines : scan.stats.symbolLines
    = (readings rule lines).countP SymbolLine.hasFields
  malformed : scan.stats.malformed
    = (readings rule lines).countP SymbolLine.isMalformed
  filtered : scan.stats.filtered
    = (readings rule lines).countP (· = .filtered)
  recorded : scan.stats.recorded
    = (rows rule lines).countP fun row => (boundsOf lines).covers row.1

theorem tallies_nil (rule : Eligibility) : Tallies rule {} [] :=
  ⟨rfl, rfl, rfl, rfl⟩

/-- Only lines of the symbols are counted. -/
theorem counters_step_of_ne_symbols (h : scan.part ≠ .symbols)
    (line : List Char) :
    let next := (scan.step rule line).stats
    next.symbolLines = scan.stats.symbolLines
      ∧ next.malformed = scan.stats.malformed
      ∧ next.filtered = scan.stats.filtered
      ∧ next.recorded = scan.stats.recorded := by
  dsimp only
  rcases step_eq rule scan line with ⟨-, heq⟩ | ⟨-, heq⟩
  · rw [heq]
    exact ⟨rfl, rfl, rfl, rfl⟩
  · rw [heq]
    unfold Scan.content
    cases hpart : scan.part with
    | preamble => exact ⟨rfl, rfl, rfl, rfl⟩
    | objectFiles =>
        cases ObjectLine.read? line <;> exact ⟨rfl, rfl, rfl, rfl⟩
    | sections =>
        dsimp only
        split
        · exact ⟨rfl, rfl, rfl, rfl⟩
        · cases textBounds? line <;> exact ⟨rfl, rfl, rfl, rfl⟩
    | symbols => exact absurd hpart h

/-- A line of the symbols is counted as what it amounts to. -/
theorem Tallies.symbolLine (t : Tallies rule scan lines)
    (h : Follows rule scan lines) (hpart : Part.inForce lines = .symbols)
    (line : List Char) :
    Tallies rule (scan.apply (scan.content rule line))
      (lines ++ [line]) := by
  have hbounds : scan.table.bounds = boundsOf lines := by
    rw [h.table, Table.bounds_ofRows]
  have hreadings := @readings_concat rule lines hpart line
  have hrows := rows_eq_filterMap_readings rule (lines ++ [line])
  rw [hreadings, List.filterMap_append, ← rows_eq_filterMap_readings] at hrows
  unfold Scan.content
  rw [h.part, hpart, h.objects]
  show Tallies rule (scan.applySymbol (.read rule _ line)) _
  -- one more reading; each counter takes it in or leaves it out
  suffices key : ∀ reading : SymbolLine,
      (scan.applySymbol reading).stats.symbolLines
          = (readings rule lines ++ [reading]).countP SymbolLine.hasFields
        ∧ (scan.applySymbol reading).stats.malformed
          = (readings rule lines ++ [reading]).countP SymbolLine.isMalformed
        ∧ (scan.applySymbol reading).stats.filtered
          = (readings rule lines ++ [reading]).countP (· = .filtered)
        ∧ (scan.applySymbol reading).stats.recorded
          = (rows rule lines ++ [reading].filterMap SymbolLine.row?).countP
              fun row => (boundsOf lines).covers row.1 by
    obtain ⟨hsymbolLines, hmalformed, hfiltered, hrecorded⟩ := key _
    refine ⟨?_, ?_, ?_, ?_⟩
    · rw [hreadings]; exact hsymbolLines
    · rw [hreadings]; exact hmalformed
    · rw [hreadings]; exact hfiltered
    · rw [hrows, boundsOf_append hpart]; exact hrecorded
  intro reading
  simp only [List.countP_append, ← t.symbolLines, ← t.malformed,
    ← t.filtered, ← t.recorded]
  unfold Scan.applySymbol
  cases reading with
  | recordable address symbol =>
      dsimp only
      rw [hbounds]
      by_cases hin : (boundsOf lines).covers address
      · simp [hin, SymbolLine.hasFields, SymbolLine.isMalformed,
          SymbolLine.row?]
      · simp [hin, SymbolLine.hasFields, SymbolLine.isMalformed,
          SymbolLine.row?]
  | _ => simp [SymbolLine.hasFields, SymbolLine.isMalformed, SymbolLine.row?]

/-- A line keeps the counters what they are. -/
theorem Tallies.step (t : Tallies rule scan lines)
    (h : Follows rule scan lines) (line : List Char) :
    Tallies rule (scan.step rule line) (lines ++ [line]) := by
  by_cases hpart : Part.inForce lines = .symbols
  · rcases step_eq rule scan line with ⟨hahead, -⟩ | ⟨-, heq⟩
    · rw [h.part, hpart, Part.after_symbols] at hahead
      exact absurd rfl hahead
    · rw [heq]
      exact t.symbolLine h hpart line
  · have hscan : scan.part ≠ .symbols := by rwa [h.part]
    obtain ⟨hsymbolLines, hmalformed, hfiltered, hrecorded⟩ :=
      @counters_step_of_ne_symbols rule scan hscan line
    have hcontents := contents_symbols_eq_nil hpart
    have hbefore := @readings_eq_nil rule lines hcontents
    have hbehind := @readings_eq_nil rule (lines ++ [line]) (by
      rw [contents_concat_of_ne hpart, hcontents])
    refine ⟨?_, ?_, ?_, ?_⟩
    · rw [hsymbolLines, t.symbolLines, hbefore, hbehind]
    · rw [hmalformed, t.malformed, hbefore, hbehind]
    · rw [hfiltered, t.filtered, hbefore, hbehind]
    · rw [hrecorded, t.recorded, rows_eq_nil hpart, rows_concat_eq_nil hpart]
      rfl

/-- So do any number of lines. -/
theorem Tallies.readOn (t : Tallies rule scan lines)
    (h : Follows rule scan lines) (rest : List (List Char)) :
    Tallies rule (scan.readOn rule rest) (lines ++ rest) := by
  induction rest generalizing scan lines with
  | nil =>
      rw [List.append_nil]
      exact t
  | cons line rest ih =>
      have hrest := ih (t.step h line) (h.step line)
      rw [List.append_assoc] at hrest
      exact hrest

end

-- ================================================================= runs

/-- A run counts what it has read, and nothing of what it has not. -/
theorem tallies_scanLines (rule : Eligibility) (lines : List (List Char)) :
    Tallies rule (scanLines rule lines) (consumedLines rule lines) := by
  show Tallies rule (Scan.run rule {} lines) _
  rw [run_eq_readOn]
  exact (tallies_nil rule).readOn (follows_nil rule) _

section
variable (rule : Eligibility) (lines : List (List Char))

/-- What a run records are the entries before its end. -/
theorem recorded_scanLines :
    (scanLines rule lines).stats.recorded
      = (rowsBeforeEnd rule lines).length := by
  rw [(tallies_scanLines rule lines).recorded, boundsOf_consumedLines,
    List.countP_eq_length_filter, rowsBeforeEnd_eq_filter]

/-- The table has an entry at most for each that was recorded. -/
theorem size_scanLines_le :
    (scanLines rule lines).table.size
      ≤ (scanLines rule lines).stats.recorded := by
  rw [recorded_scanLines, table_scanLines]
  exact Table.size_ofRows_le fun row hrow => covers_of_mem_rowsBeforeEnd hrow

/-- It has one for each if no two lines record symbols at one address. -/
theorem size_scanLines_eq_iff :
    (scanLines rule lines).table.size
        = (scanLines rule lines).stats.recorded
      ↔ (contents .symbols (consumedLines rule lines)).Pairwise
          fun line later => ∀ address symbol symbol',
            (boundsOf lines).covers address →
            Recordable rule (listedObjects lines) line address symbol →
              ¬ Recordable rule (listedObjects lines) later address
                symbol' := by
  rw [recorded_scanLines, table_scanLines,
    Table.size_ofRows_eq_iff fun row hrow => covers_of_mem_rowsBeforeEnd hrow,
    rowsBeforeEnd_eq_filter, List.Nodup, List.pairwise_map,
    List.pairwise_filter, rows, List.pairwise_filterMap,
    listedObjects_consumedLines]
  simp only [← rowOf?_eq_some_iff_recordable]
  -- both say it of pairs of lines, once by entries and once by addresses
  constructor
  · intro h
    refine h.imp fun hne address symbol symbol' hin hrow hlater => ?_
    exact hne (address, symbol) hrow (address, symbol') hlater hin hin rfl
  · intro h
    refine h.imp fun hnot row hrow later hlater hin _ heq => ?_
    refine hnot row.1 row.2 later.2 hin hrow ?_
    rw [hlater, heq]

/-- Without a text section there are no bounds to be inside of. -/
theorem recorded_of_missing {rule : Eligibility} {lines : List (List Char)}
    (h : (scanLines rule lines).stats.textSectionFound = false) :
    (scanLines rule lines).stats.recorded = 0 := by
  rw [textSectionFound_scanLines, Option.isSome_eq_false_iff,
    Option.isNone_iff_eq_none] at h
  rw [recorded_scanLines, List.length_eq_zero_iff,
    List.eq_nil_iff_forall_not_mem]
  intro row hrow
  have hcovers := covers_of_mem_rowsBeforeEnd hrow
  rw [boundsOf, h] at hcovers
  simp [Bounds.covers, Bounds.empty, Bounds.ceiling] at hcovers

end

-- ============================================================ accounts

/-- The lines of the symbols that start with `0x`. -/
def numberedLines (lines : List (List Char)) : List (List Char) :=
  (contents .symbols lines).filter (['0', 'x'].isPrefixOf ·)

/-- The lines that start with `0x` are those that amount to something. -/
theorem length_numberedLines (rule : Eligibility)
    (lines : List (List Char)) :
    (numberedLines lines).length
      = (readings rule lines).countP (· ≠ .other) := by
  unfold numberedLines readings
  rw [← List.countP_eq_length_filter, List.countP_map]
  refine List.countP_congr fun line _ => ?_
  rw [List.isPrefixOf_iff_prefix, ← @SymbolLine.read_ne_other_iff rule
    (listedObjects lines).toArray]
  simp

/-- Of these, the ones with two tabs are counted as symbol lines. -/
theorem countP_numberedLines (rule : Eligibility)
    (lines : List (List Char)) :
    (numberedLines lines).countP (2 ≤ ·.count '\t')
      = (readings rule lines).countP SymbolLine.hasFields := by
  unfold numberedLines readings
  rw [List.countP_filter, List.countP_map]
  refine List.countP_congr fun line _ => ?_
  simp [SymbolLine.hasFields_read_iff, and_comm]

/-- Every line of the symbols that is read and starts with `0x` is
recorded, filtered or malformed, or ended the scan. -/
theorem length_numberedLines_consumedLines (rule : Eligibility)
    (lines : List (List Char)) :
    let stats := (scanLines rule lines).stats
    (numberedLines (consumedLines rule lines)).length
      = stats.recorded + stats.filtered + stats.malformed
        + if stats.terminatedEarly then 1 else 0 := by
  intro stats
  obtain ⟨-, hmalformed, hfiltered, -⟩ := tallies_scanLines rule lines
  obtain ⟨ending, hrows, -, hending⟩ := rows_consumedLines rule lines
  -- entries are made by what is recorded and by the line that ended the scan,
  -- if one did
  have hmade : ((readings rule (consumedLines rule lines)).filterMap
        SymbolLine.row?).length
      = stats.recorded + if stats.terminatedEarly then 1 else 0 := by
    rw [← rows_eq_filterMap_readings, hrows, List.length_append, hending,
      ← recorded_scanLines]
  rw [length_numberedLines rule, SymbolLine.countP_ne_other, hmade,
    ← hfiltered, ← hmalformed]
  show stats.malformed + stats.filtered + _ = _
  omega

/-- For all lines, and whatever rule says which symbols may be ordered:
the lines that are read are all, or those up to the one at which the scan
ends, and the scan is what reading them makes of it. Every line among them
that is one of the symbols and starts with `0x` is recorded, filtered or
malformed, or ended the scan; it counts as a symbol line if it has two
tabs. Object files are counted as they are listed. The table has no more
entries than were recorded, and as many exactly if no two lines record
symbols at one address; without a text section nothing is recorded. -/
theorem stats_scanLines (rule : Eligibility) (lines : List (List Char)) :
    let scan := scanLines rule lines
    let read := consumedLines rule lines
    (read <+: lines ∧ scan = Scan.readOn rule {} read
        ∧ (scan.stats.terminatedEarly = false → read = lines))
      ∧ scan.stats.recorded + scan.stats.filtered + scan.stats.malformed
          + (if scan.stats.terminatedEarly then 1 else 0)
        = (numberedLines read).length
      ∧ scan.stats.symbolLines
        = (numberedLines read).countP (2 ≤ ·.count '\t')
      ∧ scan.stats.objectFiles = scan.objects.size
      ∧ scan.table.size ≤ scan.stats.recorded
      ∧ (scan.table.size = scan.stats.recorded
        ↔ (contents .symbols read).Pairwise fun line later =>
            ∀ address symbol symbol', scan.table.bounds.covers address →
              Recordable rule scan.objects.toList line address symbol →
                ¬ Recordable rule scan.objects.toList later address
                  symbol')
      ∧ (scan.stats.textSectionFound = false →
        scan.table.size = 0 ∧ scan.stats.recorded = 0) := by
  intro scan read
  have hobjects : scan.objects = (listedObjects lines).toArray :=
    objects_scanLines rule lines
  have hsize := size_scanLines_le rule lines
  have hread : scan = Scan.readOn rule {} read := run_eq_readOn rule {} lines
  refine ⟨⟨consumed_isPrefix rule {} lines, hread, consumed_of_running⟩,
    ?_, ?_, ?_, hsize, ?_, ?_⟩
  · exact (length_numberedLines_consumedLines rule lines).symm
  · rw [countP_numberedLines rule]
    exact (tallies_scanLines rule lines).symbolLines
  · rw [objectFiles_scanLines, hobjects]
    rfl
  · rw [size_scanLines_eq_iff, hobjects, bounds_scanLines]
  · intro hmissing
    have hnone := recorded_of_missing hmissing
    exact ⟨Nat.le_zero.1 (hnone ▸ hsize), hnone⟩

end LinkOrder.LinkMap
