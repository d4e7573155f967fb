/-
Layouts over tables whose symbols may all be ordered. The layout keeps
symbols and groups of them, and rejects what may not be ordered; where
nothing is rejected it comes down to names. What is observed are the first
of each name of the trace, what remains is one symbol for each other name
of the table, and how a symbol is written is settled by how many entries
carry its name (`agrees_planOf`).
-/
import LinkOrder.Proofs.Order.Completeness

namespace LinkOrder.Order

/-- How a symbol of a table is written: by its qualified name if several
entries of the table carry its name, and else by the name. -/
def writtenIn (table : Table) (symbol : Symbol) : String :=
  if 2 ≤ table.symbols.countP fun s => s.name = symbol.name then
    symbol.qualifiedName
  else symbol.name

/-- An order file that holds the names of a table, those of a trace in
front. -/
structure Agrees (table : Table) (trace : List Symbol) (file : OrderFile) :
    Prop where
  /-- What is observed are the first of each name of the trace. -/
  observed : file.observed = (firstNamed trace).map (writtenIn table)
  /-- What remains is one symbol of the table for each other name. -/
  remaining : ∃ others : List Symbol,
    file.remaining = others.map (writtenIn table)
      ∧ (∀ s ∈ others, s ∈ table.symbols)
      ∧ (names others).Nodup
      ∧ ∀ name, name ∈ names others
          ↔ name ∈ names table.symbols ∧ name ∉ names trace
  /-- There is one entry for each name. -/
  size : file.size = (names table.symbols).toFinset.card

section
variable {rule : Eligibility} {table : Table} {trace : List Symbol}

/-- Where all symbols may be ordered, all entries of a name count. -/
theorem lineOf_eq_writtenIn (hadmits : ∀ s ∈ table.symbols, rule.admits s)
    (symbol : Symbol) :
    lineOf rule table.symbols symbol = writtenIn table symbol := by
  have hcarriers : carriers rule table.symbols symbol.name
      = table.symbols.countP fun s => s.name = symbol.name := by
    unfold carriers
    refine List.countP_congr fun s hs => ?_
    simp [hadmits s hs]
  unfold lineOf writtenIn Symbol.qualifiedName
  rw [hcarriers]
  cases symbol.object.qualifier? with
  | some file => rfl
  | none => exact (ite_self _).symm

/-- Over a table whose symbols may all be ordered, and for a trace of its
symbols, the layout comes down to names. -/
theorem agrees_planOf (order : RemainingOrder)
    {entries : List (UInt64 × Symbol)} (hentries : entries.Perm table.toList)
    (hadmits : ∀ s ∈ table.symbols, rule.admits s)
    (htrace : ∀ s ∈ trace, s ∈ table.symbols) :
    Agrees table trace (planOf rule order entries trace).file := by
  obtain ⟨tail, htail, hobserved, hremaining⟩ :=
    planOf_of_perm rule order hentries htrace
  have hwritten : ∀ row : List Symbol,
      (row.map (entryOf rule table.symbols)).map Entry.line
        = row.map (writtenIn table) := by
    intro row
    rw [map_line_entryOf]
    exact List.map_congr_left fun s _ => lineOf_eq_writtenIn hadmits s
  -- the rule keeps every symbol in sight, so its filters fall away
  have htraceAll : trace.filter rule.admits = trace :=
    List.filter_eq_self.2 fun s hs => hadmits s (htrace s hs)
  have htailAll : tail.filter rule.admits = tail :=
    List.filter_eq_self.2 fun s hs => hadmits s (htail.mem_iff.1 hs)
  have hsymbolsAll : table.symbols.filter rule.admits = table.symbols :=
    List.filter_eq_self.2 hadmits
  rw [htraceAll] at hobserved hremaining
  rw [htailAll] at hremaining
  refine ⟨?_, ⟨(firstNamed tail).filter fun s => s.name ∉ names trace,
    ?_, ?_, ?_, fun name => ?_⟩, ?_⟩
  · rw [Plan.file, hobserved, hwritten]
  · rw [Plan.file, hremaining, hwritten]
  · intro s hs
    have hmem := (firstNamed_sublist tail).subset (List.mem_of_mem_filter hs)
    exact htail.mem_iff.1 hmem
  · exact (nodup_names_firstNamed tail).sublist
      (List.filter_sublist.map Symbol.name)
  · rw [mem_names_filter_firstNamed]
    refine and_congr_left fun _ => ?_
    exact (htail.map Symbol.name).mem_iff
  · rw [size_planOf rule order hentries htrace, eligibleNames, hsymbolsAll]

end

end LinkOrder.Order
