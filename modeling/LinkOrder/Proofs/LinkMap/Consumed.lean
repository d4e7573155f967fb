/-
The lines that a run reads. A run ends at the first line that makes an
entry outside the bounds, and what is behind that line is never looked at;
over the lines up to there (`Scan.consumed`) it is a reading like any
other (`follows_scanLines`). Whatever is left unread is content of the
symbols, so of the other parts everything has been read
(`Follows.contents_consumed`).

Of the entries that the lines read make, those before the last are inside
the bounds, and the last is too unless the run ended there
(`Follows.rows_consumed`). One entry at most is outside, then, and there
is one exactly if the run ended early. What a run leaves behind is
therefore the table of the entries in front of the first one outside the
bounds (`table_scanLines`).
-/
import LinkOrder.Proofs.LinkMap.Reading

namespace LinkOrder.LinkMap

/-- The lines that a run reads: all, or those up to the one that ends
it. -/
def Scan.consumed (rule : Eligibility) (scan : Scan) :
    List (List Char) → List (List Char)
  | [] => []
  | line :: rest =>
      let next := scan.step rule line
      line :: if next.stats.terminatedEarly then []
        else next.consumed rule rest

/-- The lines of a link map that are read. -/
def consumedLines (rule : Eligibility) (lines : List (List Char)) :
    List (List Char) :=
  Scan.consumed rule {} lines

section
variable {rule : Eligibility} {scan : Scan} {lines : List (List Char)}

/-- A run is a reading of the lines that it reads. -/
theorem run_eq_readOn (rule : Eligibility) (scan : Scan)
    (lines : List (List Char)) :
    scan.run rule lines = scan.readOn rule (scan.consumed rule lines) := by
  -- on the lines, from any scan: both functions take the same next step and
  -- ask it the same question
  induction lines generalizing scan with
  | nil => rfl
  | cons line rest ih =>
      rw [Scan.run, Scan.consumed]
      by_cases hending : (scan.step rule line).stats.terminatedEarly
      · rw [if_pos hending, if_pos hending]
        rfl
      · rw [if_neg hending, if_neg hending, ih]
        rfl

/-- A scan of a link map follows the lines that it reads, so all that is
known of readings is known of scans. -/
theorem follows_scanLines (rule : Eligibility) (lines : List (List Char)) :
    Follows rule (scanLines rule lines) (consumedLines rule lines) := by
  show Follows rule (Scan.run rule {} lines) _
  rw [run_eq_readOn]
  exact (follows_nil rule).readOn _

/-- Nothing is skipped: what is left unread is all behind what is read. -/
theorem consumed_isPrefix (rule : Eligibility) (scan : Scan)
    (lines : List (List Char)) : scan.consumed rule lines <+: lines := by
  induction lines generalizing scan with
  | nil => exact List.prefix_rfl
  | cons line rest ih =>
      rw [Scan.consumed]
      refine (List.prefix_cons_inj line).2 ?_
      -- the line itself is read in any case, those behind it perhaps not
      split
      · exact List.nil_prefix
      · exact ih _

/-- What does not end is read to the last line. -/
theorem consumed_of_running
    (h : (scan.run rule lines).stats.terminatedEarly = false) :
    scan.consumed rule lines = lines := by
  induction lines generalizing scan with
  | nil => rfl
  | cons line rest ih =>
      rw [Scan.run] at h
      rw [Scan.consumed]
      by_cases hending : (scan.step rule line).stats.terminatedEarly
      · rw [if_pos hending, hending] at h
        cases h
      · rw [if_neg hending] at h
        rw [if_neg hending, ih h]

/-- Of all parts but the symbols everything is read. -/
theorem Follows.contents_consumed (h : Follows rule scan lines)
    (hrunning : scan.stats.terminatedEarly = false) {part : Part}
    (hpart : part ≠ .symbols) (rest : List (List Char)) :
    contents part (lines ++ scan.consumed rule rest)
      = contents part (lines ++ rest) := by
  induction rest generalizing scan lines with
  | nil => rfl
  | cons line rest ih =>
      rw [Scan.consumed]
      by_cases hending : (scan.step rule line).stats.terminatedEarly
      · -- a scan ends among the symbols only, and from there on no other part
        -- has content
        have hsymbols := (h.ending hrunning hending).1
        rw [contents_append_of_ne_symbols hsymbols hpart,
          contents_append_of_ne_symbols hsymbols hpart]
      · rw [if_neg hending]
        rw [Bool.not_eq_true] at hending
        have hrest := ih (h.step line) hending
        rw [List.append_assoc, List.append_assoc] at hrest
        exact hrest

/-- In particular from the first line on. -/
theorem contents_consumedLines (rule : Eligibility) {part : Part}
    (hpart : part ≠ .symbols) (lines : List (List Char)) :
    contents part (consumedLines rule lines) = contents part lines :=
  (follows_nil rule).contents_consumed rfl hpart lines

/-- The entries made by the lines that a run reads: those in front of the
first one outside the bounds, and that one, if the run ended there. -/
theorem Follows.rows_consumed (h : Follows rule scan lines)
    (hrunning : scan.stats.terminatedEarly = false)
    (rest : List (List Char)) :
    ∃ ending, rows rule (lines ++ scan.consumed rule rest)
        = rowsBeforeEnd rule (lines ++ rest) ++ ending
      ∧ (∀ row ∈ ending, (boundsOf (lines ++ rest)).covers row.1 = false)
      ∧ ending.length
        = if (scan.run rule rest).stats.terminatedEarly then 1 else 0 := by
  have hcovers := h.covers_of_running hrunning
  -- on what is still to be read; `Follows` goes along with what was read
  induction rest generalizing scan lines with
  | nil =>
      refine ⟨[], ?_, by simp, ?_⟩
      · rw [Scan.consumed, List.append_nil, List.append_nil, rowsBeforeEnd,
          List.takeWhile_eq_self_iff.2 hcovers]
      · rw [Scan.run, hrunning]
        rfl
  | cons line rest ih =>
      rw [Scan.consumed, Scan.run]
      by_cases hending : (scan.step rule line).stats.terminatedEarly
      · obtain ⟨hpart, row, hrow, hout⟩ := h.ending hrunning hending
        rw [if_pos hending, if_pos hending, boundsOf_append hpart]
        -- the ending line's own entry is the last, and the rest not read
        refine ⟨[row], ?_, by simpa using hout, ?_⟩
        · unfold rowsBeforeEnd
          rw [rows_append hpart, rows_append hpart, boundsOf_append hpart,
            List.takeWhile_append_of_pos hcovers,
            List.filterMap_cons_some hrow, List.filterMap_cons_some hrow,
            List.takeWhile_cons, hout]
          simp
        · rw [hending]
          rfl
      · rw [if_neg hending, if_neg hending]
        rw [Bool.not_eq_true] at hending
        have hstep := h.step line
        have hrest := ih hstep hending (hstep.covers_of_running hending)
        rw [List.append_assoc, List.append_assoc] at hrest
        exact hrest

/-- In particular of all lines of a link map: one entry at most is made
beyond those that are kept. -/
theorem rows_consumedLines (rule : Eligibility) (lines : List (List Char)) :
    ∃ ending, rows rule (consumedLines rule lines)
        = rowsBeforeEnd rule lines ++ ending
      ∧ (∀ row ∈ ending, (boundsOf lines).covers row.1 = false)
      ∧ ending.length
        = if (scanLines rule lines).stats.terminatedEarly then 1 else 0 :=
  (follows_nil rule).rows_consumed rfl lines

end

-- =============================================================== runs

section
variable (rule : Eligibility) (lines : List (List Char))

/-- What is left unread lists no object files. -/
theorem listedObjects_consumedLines :
    listedObjects (consumedLines rule lines) = listedObjects lines := by
  unfold listedObjects
  rw [contents_consumedLines rule (by simp)]

/-- What is left unread has no part in the bounds. -/
theorem readBounds?_consumedLines :
    readBounds? (consumedLines rule lines) = readBounds? lines := by
  unfold readBounds?
  rw [contents_consumedLines rule (by simp)]

/-- So the bounds are those of the whole link map. -/
theorem boundsOf_consumedLines :
    boundsOf (consumedLines rule lines) = boundsOf lines := by
  unfold boundsOf
  rw [readBounds?_consumedLines]

/-- The entries before the end of a run are those inside the bounds, of
all that the lines it reads make. -/
theorem rowsBeforeEnd_eq_filter :
    rowsBeforeEnd rule lines
      = (rows rule (consumedLines rule lines)).filter fun row =>
          (boundsOf lines).covers row.1 := by
  obtain ⟨ending, hrows, hout, -⟩ := rows_consumedLines rule lines
  rw [hrows, List.filter_append, List.filter_eq_self.2,
    List.filter_eq_nil_iff.2, List.append_nil]
  · -- the entry that ended the run is outside, all others are inside
    intro row hrow
    simp [hout row hrow]
  · exact fun row hrow => covers_of_mem_rowsBeforeEnd hrow

/-- What a run over all lines leaves behind. -/
theorem table_scanLines :
    (scanLines rule lines).table
      = .ofRows (boundsOf lines) (rowsBeforeEnd rule lines) := by
  rw [(follows_scanLines rule lines).table, boundsOf_consumedLines,
    rowsBeforeEnd_eq_filter, Table.ofRows_filter_covers]

/-- The bounds of the table are settled by the lines, not by how far the
scan went. -/
theorem bounds_scanLines :
    (scanLines rule lines).table.bounds = boundsOf lines := by
  rw [table_scanLines, Table.bounds_ofRows]

/-- The text section is found if some line of the sections gives its
bounds. -/
theorem textSectionFound_scanLines :
    (scanLines rule lines).stats.textSectionFound
      = (readBounds? lines).isSome := by
  rw [(follows_scanLines rule lines).found, readBounds?_consumedLines]

/-- A run knows all object files that are listed, whatever it leaves
unread. -/
theorem objects_scanLines :
    (scanLines rule lines).objects = (listedObjects lines).toArray := by
  rw [(follows_scanLines rule lines).objects, listedObjects_consumedLines]

end

/-- Object files are counted as they are listed. -/
theorem objectFiles_apply {scan : Scan} (event : Event)
    (h : scan.stats.objectFiles = scan.objects.size) :
    (scan.apply event).stats.objectFiles
      = (scan.apply event).objects.size := by
  -- only one kind of event adds an object file, and it pushes and counts
  -- together
  cases event with
  | entered part => exact h
  | ignored => exact h
  | object line =>
      show scan.stats.objectFiles + 1 = (scan.objects.push line.object).size
      rw [Array.size_push, h]
  | textSection bounds => exact h
  | symbol line =>
      show (scan.applySymbol line).stats.objectFiles
        = (scan.applySymbol line).objects.size
      unfold Scan.applySymbol
      cases line with
      | recordable address symbol =>
          dsimp only
          split
          · exact h
          · exact h
      | _ => exact h

/-- The counter keeps up with the list over any number of lines. -/
theorem objectFiles_readOn {rule : Eligibility} {scan : Scan}
    (h : scan.stats.objectFiles = scan.objects.size)
    (lines : List (List Char)) :
    (scan.readOn rule lines).stats.objectFiles
      = (scan.readOn rule lines).objects.size := by
  induction lines generalizing scan with
  | nil => exact h
  | cons line rest ih => exact ih (objectFiles_apply _ h)

/-- The counter is the number of object files that the link map lists,
however far it was read. -/
theorem objectFiles_scanLines (rule : Eligibility)
    (lines : List (List Char)) :
    (scanLines rule lines).stats.objectFiles
      = (listedObjects lines).length := by
  have hcount : (scanLines rule lines).stats.objectFiles
      = (scanLines rule lines).objects.size := by
    show (Scan.run rule {} lines).stats.objectFiles
      = (Scan.run rule {} lines).objects.size
    rw [run_eq_readOn]
    exact objectFiles_readOn rfl _
  rw [hcount, objects_scanLines]
  rfl

/-- Whatever a run enters is to be recorded according to some line. -/
theorem exists_recordable_of_mem_scanLines {rule : Eligibility}
    {lines : List (List Char)} {symbol : Symbol}
    (h : symbol ∈ (scanLines rule lines).table.symbols) :
    ∃ line ∈ lines, ∃ address,
      Recordable rule (listedObjects lines) line address symbol := by
  obtain ⟨address, hget⟩ := Table.mem_symbols_iff.1 h
  rw [table_scanLines, Table.get?_ofRows_eq_some_iff] at hget
  obtain ⟨-, before, behind, heq, -⟩ := hget
  -- what stands was entered, and what was entered is an entry of some line
  have hmem : (address, symbol) ∈ rows rule lines := by
    have hfront : (address, symbol) ∈ rowsBeforeEnd rule lines := by
      rw [heq]
      simp
    exact (List.takeWhile_sublist _).subset hfront
  obtain ⟨line, hline, hrow⟩ := List.mem_filterMap.1 hmem
  exact ⟨line, mem_of_mem_contents hline, address,
    rowOf?_eq_some_iff_recordable.1 hrow⟩

/-- A run enters symbols only that may be ordered. -/
theorem admits_of_mem_scanLines {rule : Eligibility}
    {lines : List (List Char)} {symbol : Symbol}
    (h : symbol ∈ (scanLines rule lines).table.symbols) :
    rule.admits symbol := by
  obtain ⟨_, -, _, hrecordable⟩ := exists_recordable_of_mem_scanLines h
  exact hrecordable.admits

end LinkOrder.LinkMap
