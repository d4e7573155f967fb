/-
When a symbol stands in the table of a link map, said of the lines alone
and line by line (`get?_scanLines_iff`). Three things are read off the
lines first, each by itself: the object files, the bounds of the text
section (`SetsBounds`), and how far the symbols are read (`Reached`), up
to the first line that would record a symbol outside the bounds. A symbol
stands at an address if one of the lines so reached records it there, and
none behind that line records another at the same address.
-/
import LinkOrder.Proofs.LinkMap.Consumed

namespace LinkOrder.LinkMap

-- ======================================================= object files

/-- The object files are those of the lines with a closing bracket, one for
each and in their order. -/
theorem forall₂_listed (lines : List (List Char)) :
    List.Forall₂ Listed (lines.filter fun line => ']' ∈ line)
      (lines.filterMap objectOf?) := by
  -- line by line, the two rows keep or drop the same lines
  induction lines with
  | nil => exact .nil
  | cons line rest ih =>
      cases hobject : objectOf? line with
      | none =>
          have hnot : ¬ ']' ∈ line := by
            rw [← isSome_objectOf?_iff, hobject]
            simp
          rw [List.filterMap_cons_none hobject,
            List.filter_cons_of_neg (by simpa using hnot)]
          exact ih
      | some object =>
          have hmem : ']' ∈ line := by
            rw [← isSome_objectOf?_iff, hobject]
            rfl
          rw [List.filterMap_cons_some hobject,
            List.filter_cons_of_pos (by simpa using hmem)]
          exact .cons (objectOf?_eq_some_iff.1 hobject) ih

-- ============================================================= bounds

/-- The bounds that lines of the sections set: those in the first line
that has the marker of the text section and two tabs, a number that cannot
be read counting as zero, and `0, 0` if there is no such line. -/
inductive SetsBounds (lines : List (List Char)) : Bounds → Prop
  | found {before behind : List (List Char)} {line start size : List Char}
      (hlines : lines = before ++ line :: behind)
      (hbefore : ∀ earlier ∈ before,
        textSectionMarker <:+: earlier → earlier.count '\t' < 2)
      (hrow : TextRow line start size) :
      SetsBounds lines ⟨(Numeral.readHex? start).getD 0,
        (Numeral.readHex? size).getD 0⟩
  | missing
      (hnone : ∀ line ∈ lines,
        textSectionMarker <:+: line → line.count '\t' < 2) :
      SetsBounds lines ⟨0, 0⟩

/-- A line is no row of the text section if it lacks the marker or has too
few fields for a start and a size. -/
theorem textBounds?_eq_none_iff {line : List Char} :
    textBounds? line = none
      ↔ (textSectionMarker <:+: line → line.count '\t' < 2) := by
  rw [← Nat.not_le, ← exists_fields_iff]
  constructor
  · intro hnone hmark hthree
    obtain ⟨start, size, rest, hfields⟩ := hthree
    have hsome := textBounds?_eq_some_iff.2
      ⟨start, size, ⟨hmark, rest, hfields⟩, rfl⟩
    rw [hnone] at hsome
    cases hsome
  · intro h
    by_contra hsome
    obtain ⟨bounds, hbounds⟩ := Option.ne_none_iff_exists'.1 hsome
    obtain ⟨start, size, ⟨hmark, rest, hfields⟩, -⟩ :=
      textBounds?_eq_some_iff.1 hbounds
    exact h hmark ⟨start, size, rest, hfields⟩

/-- The first row of the text section is found by going through the lines,
and those passed by were none. -/
theorem setsBounds_boundsOf (lines : List (List Char)) :
    SetsBounds (contents .sections lines) (boundsOf lines) := by
  unfold boundsOf readBounds?
  -- the two ways to set bounds are the two ends of the search
  cases hfind : (contents .sections lines).findSome? textBounds? with
  | none =>
      rw [List.findSome?_eq_none_iff] at hfind
      exact .missing fun line hline =>
        textBounds?_eq_none_iff.1 (hfind line hline)
  | some bounds =>
      obtain ⟨before, line, behind, hlines, hline, hbefore⟩ :=
        List.findSome?_eq_some_iff.1 hfind
      obtain ⟨start, size, hrow, rfl⟩ := textBounds?_eq_some_iff.1 hline
      exact .found hlines
        (fun earlier hearlier =>
          textBounds?_eq_none_iff.1 (hbefore earlier hearlier)) hrow

-- ============================================================ symbols

/-- A line that would record a symbol outside the bounds. -/
def Leaves (rule : Eligibility) (objects : List ObjectFile)
    (bounds : Bounds) (line : List Char) : Prop :=
  ∃ address symbol, Recordable rule objects line address symbol
    ∧ bounds.covers address = false

/-- The lines in front of the first one that leaves the bounds, or all. -/
structure Reached (rule : Eligibility) (objects : List ObjectFile)
    (bounds : Bounds) (lines reached : List (List Char)) : Prop where
  front : reached <+: lines
  stays : ∀ line ∈ reached, ¬ Leaves rule objects bounds line
  leaves : ∀ line, reached ++ [line] <+: lines →
    Leaves rule objects bounds line

section
variable (rule : Eligibility) (objects : List ObjectFile) (bounds : Bounds)

/-- Whether a line may be followed by others. -/
def stays (line : List Char) : Bool :=
  (rowOf? rule objects line).all fun row => bounds.covers row.1

/-- To leave the bounds is decidable, which `Leaves` does not show. -/
theorem leaves_iff (line : List Char) :
    Leaves rule objects bounds line
      ↔ stays rule objects bounds line = false := by
  unfold Leaves stays
  simp only [← rowOf?_eq_some_iff_recordable]
  cases rowOf? rule objects line with
  | none => simp
  | some row =>
      obtain ⟨address, symbol⟩ := row
      simp

/-- The lines that are reached can be computed: they are those in front of
the first that leaves the bounds. -/
theorem reached_takeWhile (lines : List (List Char)) :
    Reached rule objects bounds lines
      (lines.takeWhile (stays rule objects bounds)) where
  front := List.takeWhile_prefix _
  stays := by
    intro line hline hleaves
    rw [leaves_iff, List.mem_takeWhile_imp hline] at hleaves
    cases hleaves
  leaves := by
    intro line hnext
    obtain ⟨rest, heq⟩ := hnext
    -- the line behind what is taken is the first of what is dropped
    have hdrop : lines.dropWhile (stays rule objects bounds)
        = line :: rest := by
      have hlines := @List.takeWhile_append_dropWhile _
        (stays rule objects bounds) lines
      have hsplit := hlines.trans heq.symm
      rw [List.append_assoc] at hsplit
      exact List.append_cancel_left hsplit
    have hhead := List.head?_dropWhile_not (stays rule objects bounds) lines
    rw [hdrop] at hhead
    exact (leaves_iff rule objects bounds line).2 hhead

end

/-- The entries before the end are those of the lines that are reached. -/
theorem rowsBeforeEnd_eq (rule : Eligibility) (lines : List (List Char)) :
    rowsBeforeEnd rule lines
      = ((contents .symbols lines).takeWhile
          (stays rule (listedObjects lines) (boundsOf lines))).filterMap
        (rowOf? rule (listedObjects lines)) := by
  unfold rowsBeforeEnd rows
  rw [List.takeWhile_filterMap]
  rfl

-- ====================================================== the criterion

/-- Of a reached line that records a symbol, the address is covered. -/
theorem Reached.covers {rule : Eligibility} {objects : List ObjectFile}
    {bounds : Bounds} {lines reached : List (List Char)}
    (h : Reached rule objects bounds lines reached) {line : List Char}
    (hline : line ∈ reached) {address : UInt64} {symbol : Symbol}
    (hrecord : Recordable rule objects line address symbol) :
    bounds.covers address := by
  by_contra hout
  rw [Bool.not_eq_true] at hout
  exact h.stays line hline ⟨address, symbol, hrecord, hout⟩

/-- For all lines, and whatever rule says which symbols may be ordered:
the table has the bounds that the sections set, and holds a symbol at an
address exactly if one of the symbol lines in front of the first that
leaves the bounds records it there, and none behind that line and in front
of the same end records another. The object files, the bounds and the
lines that are reached are determined by what is said of them. -/
theorem get?_scanLines_iff (rule : Eligibility)
    (lines : List (List Char)) :
    ∃ objects bounds reached,
      List.Forall₂ Listed
          ((contents .objectFiles lines).filter fun line => ']' ∈ line)
          objects
        ∧ SetsBounds (contents .sections lines) bounds
        ∧ Reached rule objects bounds (contents .symbols lines) reached
        ∧ (scanLines rule lines).table.bounds = bounds
        ∧ ∀ address symbol,
          (scanLines rule lines).table.get? address = some symbol
            ↔ ∃ before line behind, reached = before ++ line :: behind
              ∧ Recordable rule objects line address symbol
              ∧ ∀ later ∈ behind, ∀ other,
                ¬ Recordable rule objects later address other := by
  have hreached := reached_takeWhile rule (listedObjects lines)
    (boundsOf lines) (contents .symbols lines)
  refine ⟨listedObjects lines, boundsOf lines, _, forall₂_listed _,
    setsBounds_boundsOf lines, hreached, ?_, ?_⟩
  · rw [table_scanLines, Table.bounds_ofRows]
  · intro address symbol
    -- the last entry at an address, told of entries first and then of the
    -- lines that make them
    rw [table_scanLines, Table.get?_ofRows_eq_some_iff, rowsBeforeEnd_eq,
      Table.lasts_filterMap]
    simp only [ne_eq, rowOf?_eq_some_iff_recordable]
    constructor
    · intro hstands
      obtain ⟨-, hlast⟩ := hstands
      exact hlast
    · intro hline
      obtain ⟨before, line, behind, heq, hrecord, hbehind⟩ := hline
      refine ⟨hreached.covers ?_ hrecord, before, line, behind, heq,
        hrecord, hbehind⟩
      rw [heq]
      exact List.mem_append_right _ List.mem_cons_self

end LinkOrder.LinkMap
