/-
What is lost when a scan ends at the first symbol outside the text section,
compared with reading on to the last line and merely leaving such symbols
out (`Scan.readOn`). Where symbols are listed by ascending address, one
behind the section is followed by others behind it only, and nothing is
lost. One in front of the section ends the scan as well, though, and then
everything is lost that the section has: the test is two-sided, while the
order speaks for one side only.

Main statements: for ascending symbols the two tables agree exactly if no
symbol lies in front of the section, or none in it
(`table_scanLines_eq_readOn_iff`); a link map with a symbol in front of
one in the section, for which they do not agree (`lowSymbol_lost`).
-/
import LinkOrder.Proofs.LinkMap.Consumed

namespace LinkOrder.LinkMap

/-- Some line of the symbols is to be recorded, as a symbol at an address,
should that lie in the text section. -/
def Records (rule : Eligibility) (lines : List (List Char))
    (address : UInt64) (symbol : Symbol) : Prop :=
  ∃ line ∈ contents .symbols lines,
    Recordable rule (listedObjects lines) line address symbol

/-- The lines that are to be recorded are listed by ascending address. -/
def Ascending (rule : Eligibility) (lines : List (List Char)) : Prop :=
  (contents .symbols lines).Pairwise fun line later =>
    ∀ address symbol, ∀ address' symbol',
      Recordable rule (listedObjects lines) line address symbol →
      Recordable rule (listedObjects lines) later address' symbol' →
        address ≤ address'

section
variable {rule : Eligibility} {lines : List (List Char)}

/-- The entries that lines make, said of the lines. -/
theorem mem_rows_iff {address : UInt64} {symbol : Symbol} :
    (address, symbol) ∈ rows rule lines
      ↔ Records rule lines address symbol := by
  unfold rows Records
  rw [List.mem_filterMap]
  simp only [rowOf?_eq_some_iff_recordable]

/-- Whether the entries ascend can be seen from the lines. -/
theorem ascending_iff :
    Ascending rule lines
      ↔ (rows rule lines).Pairwise fun row later => row.1 ≤ later.1 := by
  unfold Ascending rows
  rw [List.pairwise_filterMap]
  simp only [← rowOf?_eq_some_iff_recordable]
  constructor
  · intro h
    refine h.imp fun hle row hrow later hlater => ?_
    exact hle row.1 row.2 later.1 later.2 hrow hlater
  · intro h
    refine h.imp fun hle address symbol address' symbol' hrow hlater => ?_
    exact hle (address, symbol) hrow (address', symbol') hlater

end

-- ================================================== ascending entries

section
variable {bounds : Bounds} {rows : List (UInt64 × Symbol)}

/-- Ascending entries from the start of the bounds on: what comes after
the first one outside is outside too. -/
theorem takeWhile_covers_eq_filter
    (hsorted : rows.Pairwise fun row later => row.1 ≤ later.1)
    (hstart : ∀ row ∈ rows, bounds.start ≤ row.1) :
    rows.takeWhile (fun row => bounds.covers row.1)
      = rows.filter fun row => bounds.covers row.1 := by
  induction rows with
  | nil => rfl
  | cons row rest ih =>
      obtain ⟨hrow, hrest⟩ := List.pairwise_cons.1 hsorted
      by_cases hcovers : bounds.covers row.1
      · rw [List.takeWhile_cons_of_pos (by exact hcovers),
          List.filter_cons_of_pos (by exact hcovers),
          ih hrest fun r hr => hstart r (List.mem_cons_of_mem _ hr)]
      · rw [List.takeWhile_cons_of_neg (by exact hcovers),
          List.filter_cons_of_neg (by exact hcovers)]
        have hceiling : bounds.ceiling ≤ row.1 := by
          have hge := hstart row List.mem_cons_self
          simpa [Bounds.covers, hge] using hcovers
        symm
        rw [List.filter_eq_nil_iff]
        intro later hlater hcovers'
        have hle := UInt64.le_trans hceiling (hrow later hlater)
        simp only [Bounds.covers, Bool.and_eq_true, decide_eq_true_eq]
          at hcovers'
        exact absurd hcovers'.2 (UInt64.not_lt.2 hle)

/-- If one of ascending entries lies in front of the bounds, so does the
first. -/
theorem takeWhile_covers_eq_nil
    (hsorted : rows.Pairwise fun row later => row.1 ≤ later.1)
    {low : UInt64 × Symbol} (hlow : low ∈ rows)
    (hbelow : low.1 < bounds.start) :
    rows.takeWhile (fun row => bounds.covers row.1) = [] := by
  cases rows with
  | nil => rfl
  | cons row rest =>
      have hle : row.1 ≤ low.1 := by
        rcases List.mem_cons.1 hlow with rfl | hrest
        · exact UInt64.le_refl _
        · exact (List.pairwise_cons.1 hsorted).1 low hrest
      have hfirst : row.1 < bounds.start := UInt64.lt_of_le_of_lt hle hbelow
      rw [List.takeWhile_cons_of_neg]
      simp [Bounds.covers, UInt64.not_le.2 hfirst]

end

/-- For symbols listed by ascending address, ending at the first outside
the text section leaves the same table as reading on exactly if none lies
in front of the section, or none in it. -/
theorem table_scanLines_eq_readOn_iff {rule : Eligibility}
    {lines : List (List Char)} (hascending : Ascending rule lines) :
    (scanLines rule lines).table = (Scan.readOn rule {} lines).table
      ↔ (∀ address symbol, Records rule lines address symbol →
            (boundsOf lines).start ≤ address)
        ∨ ∀ address symbol, Records rule lines address symbol →
            (boundsOf lines).covers address = false := by
  have hsorted := ascending_iff.1 hascending
  simp only [← mem_rows_iff]
  rw [table_scanLines, table_readOn]
  constructor
  · intro htables
    by_contra hneither
    simp only [not_or, not_forall] at hneither
    obtain ⟨⟨low, lowSymbol, hlow, hbelow⟩, address, symbol, hmem, hin⟩ :=
      hneither
    -- a row below the section comes first and ends the scan at once
    rw [rowsBeforeEnd, takeWhile_covers_eq_nil hsorted hlow
      (by simpa using hbelow)] at htables
    obtain ⟨held, hheld⟩ :=
      Table.exists_get?_ofRows hmem (by simpa using hin)
    rw [← htables] at hheld
    simp at hheld
  · intro hside
    rcases hside with hstart | hout
    · rw [rowsBeforeEnd, takeWhile_covers_eq_filter hsorted
        fun row hrow => hstart row.1 row.2 hrow, Table.ofRows_filter_covers]
    · have hnone : (rows rule lines).filter
          (fun row => (boundsOf lines).covers row.1) = [] := by
        rw [List.filter_eq_nil_iff]
        intro row hrow
        rw [hout row.1 row.2 hrow]
        simp
      have hfirst : rowsBeforeEnd rule lines = [] := by
        unfold rowsBeforeEnd
        cases hrows : rows rule lines with
        | nil => rfl
        | cons row rest =>
            have hrow := hout row.1 row.2 (by simp [hrows])
            rw [List.takeWhile_cons_of_neg (by simp [hrow])]
      rw [hfirst, ← Table.ofRows_filter_covers _ (rows rule lines), hnone]

/-- A small link map with the given lines of symbols. Its text section is
that of the addresses from `0x1000` to `0x10ff`. -/
def sampleText (symbols : String) : String :=
  "# Object files:\n[  0] /b/a.o\n"
    ++ "# Sections:\n0x1000\t0x100\t__TEXT\t__text\n"
    ++ "# Symbols:\n" ++ symbols

/-- Behind the text section nothing is lost. -/
theorem table_scanLines_eq_readOn_highSymbol :
    let lines := Text.lines (sampleText
      "0x1000\t0x10\t[  0] _main\n0x1100\t0x10\t[  0] _high\n").toList
    Ascending ⟨[]⟩ lines
      ∧ (scanLines ⟨[]⟩ lines).table = (Scan.readOn ⟨[]⟩ {} lines).table := by
  intro lines
  have hascending : Ascending ⟨[]⟩ lines := by
    rw [ascending_iff]
    decide +kernel
  refine ⟨hascending, (table_scanLines_eq_readOn_iff hascending).2 ?_⟩
  have hstart : ∀ row ∈ rows ⟨[]⟩ lines, (boundsOf lines).start ≤ row.1 := by
    decide +kernel
  refine .inl fun address symbol hrecords => ?_
  exact hstart (address, symbol) (mem_rows_iff.2 hrecords)

/-- In front of it everything is: the symbols are ascending, and that of
the text section is missing. -/
theorem lowSymbol_lost :
    let text := sampleText
      "0x0800\t0x10\t[  0] _low\n0x1000\t0x10\t[  0] _main\n"
    Ascending ⟨[]⟩ (Text.lines text.toList)
      ∧ (scanText ⟨[]⟩ text).table
        ≠ (Scan.readOn ⟨[]⟩ {} (Text.lines text.toList)).table := by
  intro text
  refine ⟨?_, fun htables => ?_⟩
  · rw [ascending_iff]
    decide +kernel
  · have hlost : (scanText ⟨[]⟩ text).table.get? 0x1000 = none := by
      decide +kernel
    have hheld : ((Scan.readOn ⟨[]⟩ {} (Text.lines text.toList)).table.get?
        0x1000).isSome := by
      decide +kernel
    rw [← htables, hlost] at hheld
    cases hheld

end LinkOrder.LinkMap
