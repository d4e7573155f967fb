/-
What a scan has read behind some lines. All of it is a function of those
lines: the object files are those of the object file lines, the bounds
those of the first row of the text section, and the table is what the
symbol lines leave behind, entered one after the other (`Follows`).

A scan goes through `Follows` line by line (`Follows.step`), whether or
not it has met a symbol outside the bounds. So the invariant is one of
reading on (`Follows.readOn`), and a run is such a reading up to the line
that ends it, which makes the first entry outside the bounds
(`Follows.ending`). From the parts only moving forward it follows that
nothing that was used for earlier lines changes later: object files and
bounds are settled by the first symbol line.
-/
import LinkOrder.Proofs.LinkMap.Fields
import LinkOrder.Proofs.LinkMap.Parts
import LinkOrder.Proofs.LinkMap.Rows
import Mathlib.Data.List.TakeWhile

namespace LinkOrder.LinkMap

-- ===================================================== what lines hold

/-- The object files that some lines list. -/
def listedObjects (lines : List (List Char)) : List ObjectFile :=
  (contents .objectFiles lines).filterMap objectOf?

/-- The bounds in the first row of the text section. -/
def readBounds? (lines : List (List Char)) : Option Bounds :=
  (contents .sections lines).findSome? textBounds?

/-- The bounds of the text section; without a row of it, none are. -/
def boundsOf (lines : List (List Char)) : Bounds :=
  (readBounds? lines).getD .empty

/-- The entries that some lines make, those outside the bounds too. -/
def rows (rule : Eligibility) (lines : List (List Char)) :
    List (UInt64 × Symbol) :=
  (contents .symbols lines).filterMap (rowOf? rule (listedObjects lines))

section
variable {rule : Eligibility} {lines : List (List Char)}

/-- Outside their part no object files are listed. -/
theorem listedObjects_concat_of_ne (h : Part.inForce lines ≠ .objectFiles)
    (line : List Char) :
    listedObjects (lines ++ [line]) = listedObjects lines := by
  unfold listedObjects
  rw [contents_concat_of_ne h]

/-- Outside of the sections no bounds are set. -/
theorem readBounds?_concat_of_ne (h : Part.inForce lines ≠ .sections)
    (line : List Char) :
    readBounds? (lines ++ [line]) = readBounds? lines := by
  unfold readBounds?
  rw [contents_concat_of_ne h]

/-- Before the marker of the symbols there is no line of theirs. -/
theorem contents_symbols_eq_nil (h : Part.inForce lines ≠ .symbols) :
    contents .symbols lines = [] := by
  refine contents_eq_nil ?_
  cases hforce : Part.inForce lines with
  | symbols => exact absurd hforce h
  | _ => decide

/-- Before the marker of the symbols no entries are made. -/
theorem rows_eq_nil (h : Part.inForce lines ≠ .symbols) :
    rows rule lines = [] := by
  unfold rows
  rw [contents_symbols_eq_nil h]
  rfl

/-- The marker of the symbols makes no entry itself. -/
theorem rows_concat_eq_nil (h : Part.inForce lines ≠ .symbols)
    (line : List Char) : rows rule (lines ++ [line]) = [] := by
  unfold rows
  rw [contents_concat_of_ne h, contents_symbols_eq_nil h]
  rfl

/-- What is behind the marker of the symbols adds entries. -/
theorem rows_append (h : Part.inForce lines = .symbols)
    (rest : List (List Char)) :
    rows rule (lines ++ rest)
      = rows rule lines
        ++ rest.filterMap (rowOf? rule (listedObjects lines)) := by
  unfold rows listedObjects
  rw [contents_append_of_symbols h, contents_append_of_ne_symbols h (by simp),
    List.filterMap_append]

/-- What is behind the marker of the symbols leaves the bounds alone. -/
theorem boundsOf_append (h : Part.inForce lines = .symbols)
    (rest : List (List Char)) :
    boundsOf (lines ++ rest) = boundsOf lines := by
  unfold boundsOf readBounds?
  rw [contents_append_of_ne_symbols h (by simp)]

end

-- ======================================================== the invariant

/-- A scan that has read the lines, all of them. -/
structure Follows (rule : Eligibility) (scan : Scan)
    (lines : List (List Char)) : Prop where
  part : scan.part = .inForce lines
  objects : scan.objects = (listedObjects lines).toArray
  found : scan.stats.textSectionFound = (readBounds? lines).isSome
  table : scan.table = .ofRows (boundsOf lines) (rows rule lines)
  ended : scan.stats.terminatedEarly
    = !(rows rule lines).all fun row => (boundsOf lines).covers row.1

theorem follows_nil (rule : Eligibility) : Follows rule {} [] where
  part := rfl
  objects := rfl
  found := rfl
  table := rfl
  ended := rfl

/-- A line either moves the scan forward, or is content. -/
theorem step_eq (rule : Eligibility) (scan : Scan) (line : List Char) :
    (scan.part.after line ≠ scan.part
        ∧ scan.step rule line = { scan with part := scan.part.after line })
      ∨ (scan.part.after line = scan.part
        ∧ scan.step rule line = scan.apply (scan.content rule line)) := by
  unfold Scan.step Scan.event Part.after Part.later
  -- a line that announces nothing is content, and so is one that announces a
  -- part that is not ahead
  cases Part.announced? line with
  | none => exact .inr ⟨rfl, rfl⟩
  | some next =>
      dsimp only
      by_cases hahead : scan.part.rank < next.rank
      · rw [if_pos hahead, if_pos hahead]
        refine .inl ⟨fun heq => ?_, rfl⟩
        rw [heq] at hahead
        exact Nat.lt_irrefl _ hahead
      · rw [if_neg hahead, if_neg hahead]
        exact .inr ⟨rfl, rfl⟩

section
variable {rule : Eligibility} {scan : Scan} {lines : List (List Char)}
  {line : List Char}

/-- What a line leaves alone need not be looked at again. -/
theorem Follows.of_eq {next : Scan} {behind : List (List Char)}
    (h : Follows rule scan lines)
    (hpart : next.part = .inForce behind)
    (hkeep : next.objects = scan.objects ∧ next.table = scan.table
      ∧ next.stats.textSectionFound = scan.stats.textSectionFound
      ∧ next.stats.terminatedEarly = scan.stats.terminatedEarly)
    (hobjects : listedObjects behind = listedObjects lines)
    (hfound : readBounds? behind = readBounds? lines)
    (hrows : rows rule behind = rows rule lines) :
    Follows rule next behind := by
  obtain ⟨hnextObjects, hnextTable, hnextFound, hnextEnded⟩ := hkeep
  have hbounds : boundsOf behind = boundsOf lines := by
    unfold boundsOf
    rw [hfound]
  refine ⟨hpart, ?_, ?_, ?_, ?_⟩
  · rw [hnextObjects, hobjects, h.objects]
  · rw [hnextFound, hfound, h.found]
  · rw [hnextTable, hbounds, hrows, h.table]
  · rw [hnextEnded, hbounds, hrows, h.ended]

/-- Moving forward. -/
theorem Follows.enter (h : Follows rule scan lines)
    (hahead : scan.part.after line ≠ scan.part) :
    Follows rule { scan with part := scan.part.after line }
      (lines ++ [line]) := by
  rw [h.part] at hahead
  have hcontents := contents_concat_of_advance hahead
  refine h.of_eq ?_ ⟨rfl, rfl, rfl, rfl⟩ ?_ ?_ ?_
  · rw [h.part, Part.inForce_concat]
  · unfold listedObjects
    rw [hcontents]
  · unfold readBounds?
    rw [hcontents]
  · unfold rows listedObjects
    rw [hcontents, hcontents]

/-- A line of the object files: one more of them, if it lists one. -/
theorem Follows.objectLine (h : Follows rule scan lines)
    (hpart : Part.inForce lines = .objectFiles)
    (hstay : (Part.inForce lines).after line = .inForce lines) :
    Follows rule (scan.apply (scan.content rule line))
      (lines ++ [line]) := by
  have hforce : Part.inForce (lines ++ [line]) = .objectFiles := by
    rw [Part.inForce_concat, hstay, hpart]
  -- as no symbols have been read, there are no entries that one more object
  -- file could change
  have hbefore : rows rule lines = [] := rows_eq_nil (by simp [hpart])
  have hbehind : rows rule (lines ++ [line]) = [] :=
    rows_eq_nil (by simp [hforce])
  have hfound : readBounds? (lines ++ [line]) = readBounds? lines :=
    readBounds?_concat_of_ne (by simp [hpart]) line
  have hobjects : listedObjects (lines ++ [line])
      = listedObjects lines ++ (objectOf? line).toList := by
    unfold listedObjects
    rw [← hpart, contents_concat_of_content hstay, List.filterMap_append,
      List.filterMap_cons, List.filterMap_nil]
    cases objectOf? line <;> rfl
  have hscan : scan.part = .objectFiles := h.part.trans hpart
  unfold Scan.content
  rw [hscan]
  unfold objectOf? at hobjects
  -- a line without a bracket lists nothing and changes nothing
  cases hread : ObjectLine.read? line with
  | none =>
      rw [hread, Option.map_none, Option.toList_none, List.append_nil]
        at hobjects
      exact h.of_eq (hscan.trans hforce.symm) ⟨rfl, rfl, rfl, rfl⟩ hobjects
        hfound (hbehind.trans hbefore.symm)
  | some object =>
      rw [hread, Option.map_some, Option.toList_some] at hobjects
      have htable := h.table
      have hended := h.ended
      rw [hbefore] at htable hended
      refine ⟨hscan.trans hforce.symm, ?_, ?_, ?_, ?_⟩
      · rw [hobjects, ← List.push_toArray, ← h.objects]
        rfl
      · rw [hfound]
        exact h.found
      · rw [hbehind, boundsOf, hfound]
        exact htable
      · rw [hbehind, boundsOf, hfound]
        exact hended

/-- A line of the preamble says nothing. -/
theorem Follows.preambleLine (h : Follows rule scan lines)
    (hpart : Part.inForce lines = .preamble)
    (hstay : (Part.inForce lines).after line = .inForce lines) :
    Follows rule (scan.apply (scan.content rule line))
      (lines ++ [line]) := by
  have hforce : Part.inForce (lines ++ [line]) = .preamble := by
    rw [Part.inForce_concat, hstay, hpart]
  have hscan : scan.part = .preamble := h.part.trans hpart
  unfold Scan.content
  rw [hscan]
  refine h.of_eq (hscan.trans hforce.symm) ⟨rfl, rfl, rfl, rfl⟩ ?_ ?_ ?_
  · exact listedObjects_concat_of_ne (by simp [hpart]) line
  · exact readBounds?_concat_of_ne (by simp [hpart]) line
  · rw [rows_eq_nil (by simp [hforce]), rows_eq_nil (by simp [hpart])]

/-- A line of the sections: the bounds, if it is the first row of the text
section. -/
theorem Follows.sectionLine (h : Follows rule scan lines)
    (hpart : Part.inForce lines = .sections)
    (hstay : (Part.inForce lines).after line = .inForce lines) :
    Follows rule (scan.apply (scan.content rule line))
      (lines ++ [line]) := by
  have hforce : Part.inForce (lines ++ [line]) = .sections := by
    rw [Part.inForce_concat, hstay, hpart]
  have hbefore : rows rule lines = [] := rows_eq_nil (by simp [hpart])
  have hbehind : rows rule (lines ++ [line]) = [] :=
    rows_eq_nil (by simp [hforce])
  have hobjects : listedObjects (lines ++ [line]) = listedObjects lines :=
    listedObjects_concat_of_ne (by simp [hpart]) line
  have hbounds : readBounds? (lines ++ [line])
      = (readBounds? lines).or (textBounds? line) := by
    unfold readBounds?
    rw [← hpart, contents_concat_of_content hstay, List.findSome?_append]
    simp
  have hscan : scan.part = .sections := h.part.trans hpart
  have hsame : readBounds? (lines ++ [line]) = readBounds? lines →
      Follows rule scan (lines ++ [line]) := fun heq =>
    h.of_eq (hscan.trans hforce.symm) ⟨rfl, rfl, rfl, rfl⟩ hobjects heq
      (hbehind.trans hbefore.symm)
  unfold Scan.content
  rw [hscan, h.found]
  -- the first row of the text section counts: once it was found, later rows
  -- change nothing
  cases hread : readBounds? lines with
  | some bounds =>
      rw [hread, Option.some_or] at hbounds
      exact hsame (hbounds.trans hread.symm)
  | none =>
      rw [hread, Option.none_or] at hbounds
      cases htext : textBounds? line with
      | none => exact hsame (hbounds.trans (htext.trans hread.symm))
      | some bounds =>
          rw [htext] at hbounds
          have hended := h.ended
          rw [hbefore] at hended
          refine ⟨hscan.trans hforce.symm, ?_, ?_, ?_, ?_⟩
          · rw [hobjects]
            exact h.objects
          · rw [hbounds]
            rfl
          · rw [hbehind, boundsOf, hbounds]
            rfl
          · rw [hbehind]
            exact hended

/-- A line of the symbols that makes no entry is at most counted. -/
theorem Follows.passed (h : Follows rule scan lines)
    (hpart : Part.inForce lines = .symbols)
    (hrow : rowOf? rule (listedObjects lines) line = none) {next : Scan}
    (hnext : next.part = scan.part)
    (hkeep : next.objects = scan.objects ∧ next.table = scan.table
      ∧ next.stats.textSectionFound = scan.stats.textSectionFound
      ∧ next.stats.terminatedEarly = scan.stats.terminatedEarly) :
    Follows rule next (lines ++ [line]) := by
  have hrows := @rows_append rule lines hpart [line]
  rw [List.filterMap_cons_none hrow, List.filterMap_nil, List.append_nil]
    at hrows
  refine h.of_eq ?_ hkeep ?_ ?_ hrows
  · rw [hnext, h.part, Part.inForce_concat, hpart, Part.after_symbols]
  · exact listedObjects_concat_of_ne (by simp [hpart]) line
  · exact readBounds?_concat_of_ne (by simp [hpart]) line

/-- A line of the symbols that makes an entry: the table takes it if it
lies inside the bounds, and else the scan is to end. -/
theorem Follows.entered (h : Follows rule scan lines)
    (hpart : Part.inForce lines = .symbols) {address : UInt64}
    {symbol : Symbol}
    (hrow : rowOf? rule (listedObjects lines) line
      = some (address, symbol)) :
    Follows rule (scan.applySymbol (.recordable address symbol))
      (lines ++ [line]) := by
  have hforce : scan.part = .inForce (lines ++ [line]) := by
    rw [h.part, Part.inForce_concat, hpart, Part.after_symbols]
  have hobjects : scan.objects
      = (listedObjects (lines ++ [line])).toArray := by
    rw [listedObjects_concat_of_ne (by simp [hpart])]
    exact h.objects
  have hfound : scan.stats.textSectionFound
      = (readBounds? (lines ++ [line])).isSome := by
    rw [readBounds?_concat_of_ne (by simp [hpart])]
    exact h.found
  have hbounds := boundsOf_append hpart [line]
  have hrows := @rows_append rule lines hpart [line]
  rw [List.filterMap_cons_some hrow, List.filterMap_nil] at hrows
  have hscanBounds : scan.table.bounds = boundsOf lines := by
    rw [h.table, Table.bounds_ofRows]
  have htable : scan.table.insert address symbol
      = .ofRows (boundsOf (lines ++ [line]))
        (rows rule (lines ++ [line])) := by
    rw [hbounds, hrows, Table.ofRows_concat, h.table]
  have hended : (!(rows rule (lines ++ [line])).all fun row =>
        (boundsOf (lines ++ [line])).covers row.1)
      = (scan.stats.terminatedEarly
        || !scan.table.bounds.covers address) := by
    rw [h.ended, hrows, hbounds, hscanBounds, List.all_append, Bool.not_and]
    simp
  unfold Scan.applySymbol
  dsimp only
  -- inside the bounds the table grows; outside it stays, and the end is noted
  by_cases hin : scan.table.bounds.covers address
  · rw [if_pos hin]
    refine ⟨hforce, hobjects, hfound, htable, ?_⟩
    rw [hended, hin]
    simp
  · rw [if_neg hin]
    rw [Bool.not_eq_true] at hin
    refine ⟨hforce, hobjects, hfound, ?_, ?_⟩
    · rw [← htable, Table.insert_of_not_covers hin]
    · rw [hended, hin]
      simp

/-- A line of the symbols: one more entry, if it makes one. -/
theorem Follows.symbolLine (h : Follows rule scan lines)
    (hpart : Part.inForce lines = .symbols) :
    Follows rule (scan.apply (scan.content rule line))
      (lines ++ [line]) := by
  unfold Scan.content
  rw [h.part, hpart, h.objects]
  show Follows rule (scan.applySymbol (.read rule _ line)) _
  -- only one kind of reading makes an entry
  cases hread : SymbolLine.read rule (listedObjects lines).toArray line with
  | recordable address symbol =>
      exact h.entered hpart (rowOf?_eq_some_iff.2 hread)
  | _ =>
      have hnone : rowOf? rule (listedObjects lines) line = none := by
        unfold rowOf?
        rw [hread]
      exact h.passed hpart hnone rfl ⟨rfl, rfl, rfl, rfl⟩

/-- A line takes a scan that has read some lines to one that has read it
too. -/
theorem Follows.step (h : Follows rule scan lines) (line : List Char) :
    Follows rule (scan.step rule line) (lines ++ [line]) := by
  rcases step_eq rule scan line with ⟨hahead, heq⟩ | ⟨hstay, heq⟩
  · rw [heq]
    exact h.enter hahead
  · rw [heq]
    rw [h.part] at hstay
    cases hpart : Part.inForce lines with
    | preamble => exact h.preambleLine hpart hstay
    | objectFiles => exact h.objectLine hpart hstay
    | sections => exact h.sectionLine hpart hstay
    | symbols => exact h.symbolLine hpart

end

-- ========================================================= reading on

/-- The scan that reads all lines, whatever it meets. -/
def Scan.readOn (rule : Eligibility) (scan : Scan)
    (lines : List (List Char)) : Scan :=
  lines.foldl (Scan.step rule) scan

/-- The invariant of reading on: `Follows.step` line by line, along the
lines that are still to come. -/
theorem Follows.readOn {rule : Eligibility} {scan : Scan}
    {lines : List (List Char)} (h : Follows rule scan lines)
    (rest : List (List Char)) :
    Follows rule (scan.readOn rule rest) (lines ++ rest) := by
  induction rest generalizing scan lines with
  | nil =>
      rw [List.append_nil]
      exact h
  | cons line rest ih =>
      have hrest := ih (h.step line)
      rw [List.append_assoc] at hrest
      exact hrest

/-- Reading on enters everything. -/
theorem table_readOn (rule : Eligibility) (lines : List (List Char)) :
    (Scan.readOn rule {} lines).table
      = .ofRows (boundsOf lines) (rows rule lines) :=
  ((follows_nil rule).readOn lines).table

-- ============================================================= the end

/-- The entries made before the first one outside the bounds. -/
def rowsBeforeEnd (rule : Eligibility) (lines : List (List Char)) :
    List (UInt64 × Symbol) :=
  (rows rule lines).takeWhile fun row => (boundsOf lines).covers row.1

section
variable {rule : Eligibility} {scan : Scan} {lines : List (List Char)}

/-- They are those in front of the first that is outside. -/
theorem covers_of_mem_rowsBeforeEnd {row : UInt64 × Symbol}
    (h : row ∈ rowsBeforeEnd rule lines) :
    (boundsOf lines).covers row.1 := by
  have hall : (rowsBeforeEnd rule lines).all fun row =>
      (boundsOf lines).covers row.1 := List.all_takeWhile
  exact List.all_eq_true.1 hall row h

/-- As long as a run goes on, all entries are inside the bounds. -/
theorem Follows.covers_of_running (h : Follows rule scan lines)
    (hrunning : scan.stats.terminatedEarly = false) :
    ∀ row ∈ rows rule lines, (boundsOf lines).covers row.1 := by
  have hall := h.ended.symm.trans hrunning
  rw [Bool.not_eq_false'] at hall
  exact List.all_eq_true.1 hall

/-- The line that ends a run makes an entry outside the bounds. -/
theorem Follows.ending (h : Follows rule scan lines)
    (hrunning : scan.stats.terminatedEarly = false) {line : List Char}
    (hending : (scan.step rule line).stats.terminatedEarly = true) :
    Part.inForce lines = .symbols
      ∧ ∃ row, rowOf? rule (listedObjects lines) line = some row
        ∧ (boundsOf lines).covers row.1 = false := by
  have hended := (h.step line).ended.symm.trans hending
  rw [Bool.not_eq_true'] at hended
  have hpart : Part.inForce lines = .symbols := by
    by_contra hne
    rw [rows_concat_eq_nil hne] at hended
    cases hended
  rw [rows_append hpart, boundsOf_append hpart, List.all_append,
    List.all_eq_true.2 (h.covers_of_running hrunning), Bool.true_and,
    List.filterMap_cons, List.filterMap_nil] at hended
  refine ⟨hpart, ?_⟩
  cases hrow : rowOf? rule (listedObjects lines) line with
  | none =>
      rw [hrow] at hended
      cases hended
  | some row =>
      rw [hrow] at hended
      refine ⟨row, rfl, ?_⟩
      simpa using hended

end

end LinkOrder.LinkMap
