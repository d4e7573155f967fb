/-
The tail of an order file that is sorted by address. What a trace leaves
over is walked by ascending address, and of each name the symbol that is
met first emits the entry of its group; so each name is written for the
symbol that stands lowest, and comes where that stands.

A walk over symbols does not show addresses, so they are kept beside it:
of entries by ascending address the first of each name are those in front
of which there is none of their name (`firstNamed_map_snd`). Symbols that
may not be ordered are no entries of such a row, and what the trace
claims, through symbols of the table or through others of the same name,
it claims by whole names. The tail is therefore one list only, that of the
leaders of the names that the trace lacks (`remaining_planOf_address`).
-/
import LinkOrder.Proofs.Order.Enumeration

namespace LinkOrder.Order

-- =================================================== entries in front

/-- No entry of the name stands at a lower address. -/
def Foremost (rows : List (UInt64 × Symbol)) (row : UInt64 × Symbol) :
    Prop :=
  ∀ other ∈ rows, other.2.name = row.2.name → row.1 ≤ other.1

instance (rows : List (UInt64 × Symbol)) (row : UInt64 × Symbol) :
    Decidable (Foremost rows row) :=
  inferInstanceAs (Decidable (∀ other ∈ rows,
    other.2.name = row.2.name → row.1 ≤ other.1))

section
variable {rows : List (UInt64 × Symbol)} {row later : UInt64 × Symbol}

/-- The first of some entries has none in front. -/
theorem foremost_cons_self (h : ∀ later ∈ rows, row.1 < later.1) :
    Foremost (row :: rows) row := by
  intro other hother _
  rcases List.mem_cons.1 hother with rfl | hlater
  · exact UInt64.le_refl _
  · exact UInt64.le_of_lt (h other hlater)

/-- Behind it are the entries of other names that have none in front among
themselves. -/
theorem foremost_cons_iff (h : row.1 < later.1) :
    Foremost (row :: rows) later
      ↔ later.2.name ≠ row.2.name ∧ Foremost rows later := by
  unfold Foremost
  rw [List.forall_mem_cons]
  refine and_congr_left fun _ => ?_
  -- a namesake in front would stand lower, so there must be none
  have hnot : ¬ later.1 ≤ row.1 := UInt64.not_le.2 h
  constructor
  · exact fun hle hname => hnot (hle hname.symm)
  · exact fun hne hname => absurd hname.symm hne

/-- By ascending address, the first of each name are those that have none
of their name in front. -/
theorem firstNamed_map_snd
    (h : rows.Pairwise fun row later => row.1 < later.1) :
    firstNamed (rows.map Prod.snd)
      = (rows.filter fun row => Foremost rows row).map Prod.snd := by
  induction rows with
  | nil => rfl
  | cons row rest ih =>
      obtain ⟨hrow, hrest⟩ := List.pairwise_cons.1 h
      rw [List.map_cons, firstNamed, ih hrest,
        List.filter_cons_of_pos (by simpa using foremost_cons_self hrow),
        List.map_cons, List.filter_map, List.filter_filter]
      -- every address behind is higher, so only the name is looked at
      congr 2
      refine List.filter_congr fun later hlater => ?_
      simp [foremost_cons_iff (hrow later hlater)]

end

-- ============================================================ leaders

/-- A symbol that may be ordered stands at the address, and none of its
name that may be stands at a lower one. -/
structure Leads (rule : Eligibility) (table : Table)
    (row : UInt64 × Symbol) : Prop where
  stands : table.get? row.1 = some row.2
  admits : rule.admits row.2
  lowest : ∀ address symbol, table.get? address = some symbol →
    rule.admits symbol → symbol.name = row.2.name → row.1 ≤ address

/-- The entries of a table that may be ordered. -/
def eligibleRows (rule : Eligibility) (table : Table) :
    List (UInt64 × Symbol) :=
  table.toList.filter fun row => rule.admits row.2

/-- Those that lead, by ascending address. -/
def leaders (rule : Eligibility) (table : Table) :
    List (UInt64 × Symbol) :=
  (eligibleRows rule table).filter (Foremost (eligibleRows rule table) ·)

section
variable {rule : Eligibility} {table : Table}

/-- These are the symbols that stand somewhere and may be ordered, each
with where it stands. -/
theorem mem_eligibleRows_iff {row : UInt64 × Symbol} :
    row ∈ eligibleRows rule table
      ↔ table.get? row.1 = some row.2 ∧ rule.admits row.2 := by
  rw [eligibleRows, List.mem_filter, Table.mem_toList_iff]

/-- They come by ascending address, since a table is listed so. -/
theorem pairwise_eligibleRows (rule : Eligibility) (table : Table) :
    (eligibleRows rule table).Pairwise fun row later =>
      row.1 < later.1 :=
  table.pairwise_toList.filter _

/-- To be foremost among the rows is to stand lowest in the table. -/
theorem leads_of_mem_leaders {row : UInt64 × Symbol}
    (h : row ∈ leaders rule table) : Leads rule table row := by
  obtain ⟨hrow, hforemost⟩ := List.mem_filter.1 h
  obtain ⟨hstands, hadmits⟩ := mem_eligibleRows_iff.1 hrow
  refine ⟨hstands, hadmits, fun address symbol hget hrule hname => ?_⟩
  exact of_decide_eq_true hforemost (address, symbol)
    (mem_eligibleRows_iff.2 ⟨hget, hrule⟩) hname

/-- They are the first of each name in a walk of the table. -/
theorem firstNamed_symbols (rule : Eligibility) (table : Table) :
    firstNamed (table.symbols.filter rule.admits)
      = (leaders rule table).map Prod.snd := by
  rw [Table.symbols, List.filter_map]
  exact firstNamed_map_snd (pairwise_eligibleRows rule table)

-- =========================================================== the tail

/-- The leaders of the names that the trace lacks. -/
def addressTail (rule : Eligibility) (table : Table)
    (trace : List Symbol) : List (UInt64 × Symbol) :=
  (leaders rule table).filter fun row =>
    row.2.name ∉ names (trace.filter rule.admits)

/-- They emit the tail. -/
theorem planOf_remaining_address {entries : List (UInt64 × Symbol)}
    (h : entries.Perm table.toList) (trace : List Symbol) :
    (planOf rule .address entries trace).remaining
      = ((addressTail rule table trace).map Prod.snd).map
          (entryOf rule table.symbols) := by
  rw [planOf_address h, plan_remaining_of_perm rule (.refl _),
    firstNamed_symbols, List.filter_map]
  rfl

/-- For every rule and table, every enumeration of the table and every
trace, whether or not its symbols are the table's: sorted by address, the
tail has one line for each name that some symbol of the table has which
may be ordered, and no such symbol of the trace. It is that of the symbol
that stands lowest among those of the name, qualified if two entries or
more carry the name and may be ordered; and the lines come by ascending
address of these symbols. -/
theorem remaining_planOf_address {entries : List (UInt64 × Symbol)}
    (h : entries.Perm table.toList) (trace : List Symbol) :
    ∃ tail : List (UInt64 × Symbol),
      (planOf rule .address entries trace).file.remaining
          = (tail.map Prod.snd).map (fun s =>
              if 2 ≤ carriers rule table.symbols s.name then
                s.qualifiedName
              else s.name)
        ∧ (tail.Pairwise fun row later => row.1 < later.1)
        ∧ (∀ row ∈ tail, Leads rule table row)
        ∧ (names (tail.map Prod.snd)).Nodup
        ∧ ∀ name, name ∈ names (tail.map Prod.snd)
          ↔ (∃ s ∈ table.symbols, rule.admits s ∧ s.name = name)
            ∧ ¬ ∃ t ∈ trace, rule.admits t ∧ t.name = name := by
  have hremaining := @planOf_remaining_address rule table _ h trace
  have hemitted := congrArg (List.map Entry.symbol) hremaining
  -- what is known of any walk holds of the walk by address
  rw [map_symbol_entryOf, planOf_address h] at hemitted
  refine ⟨addressTail rule table trace, ?_, ?_, ?_, ?_, ?_⟩
  · rw [Plan.file, hremaining, map_line_entryOf]
    exact List.map_congr_left fun s _ => lineOf_eq rule _ s
  · exact ((pairwise_eligibleRows rule table).filter _).filter _
  · exact fun row hrow => leads_of_mem_leaders (List.mem_of_mem_filter hrow)
  · rw [← hemitted]
    exact nodup_names_remaining (.refl _) trace
  · intro name
    rw [← hemitted, mem_names_remaining (.refl _)]
    simp only [mem_names, List.mem_filter, and_assoc]

end

/-- Of a name that two object files have it is the lower one that is
written, though another stands in front when the table is enumerated. -/
theorem remaining_planOf_address_sharedName :
    let entries := sharedNameTable.toList.reverse
    entries.Perm sharedNameTable.toList
      ∧ "x.o:_a" ∈ (planOf ⟨[]⟩ .address entries
          (foreignTrace.take 2)).file.remaining := by
  intro entries
  have hentries := List.reverse_perm sharedNameTable.toList
  obtain ⟨tail, hremaining, -, hleads, -, hnames⟩ :=
    @remaining_planOf_address ⟨[]⟩ _ _ hentries (foreignTrace.take 2)
  have hname : "_a" ∈ names (tail.map Prod.snd) :=
    (hnames "_a").2 (by decide +kernel)
  obtain ⟨s, hs, ha⟩ := mem_names.1 hname
  obtain ⟨row, hrow, rfl⟩ := List.mem_map.1 hs
  -- the leader stands no higher than the namesake at the start of the section,
  -- so it is that one
  have hlow : row.1 ≤ 0x1000 :=
    (hleads row hrow).lowest 0x1000 ⟨"_a", .ofDescriptor "/b/x.o"⟩
      (by decide +kernel) (by decide +kernel) ha.symm
  have hrows : ∀ row ∈ sharedNameTable.toList, row.1 ≤ 0x1000 →
      row.2 = ⟨"_a", .ofDescriptor "/b/x.o"⟩ := by
    decide +kernel
  have hsymbol := hrows row
    (Table.mem_toList_iff.2 (hleads row hrow).stands) hlow
  refine ⟨hentries, ?_⟩
  rw [hremaining]
  refine List.mem_map.2 ⟨row.2, hs, ?_⟩
  rw [hsymbol]
  decide +kernel

end LinkOrder.Order
