/-
What of an order file may depend on the order in which its table is
enumerated, and what may not. A table gives its symbols in no order of its
own, both when they are gathered into groups and when those that were not
observed are walked; so two layouts of one table and one trace may differ
in the order of the tail, and in the member that speaks for a group there.
They differ in nothing else (`planOf_agree`): not in what was observed,
not in how many entries there are or how many of them speak for several
symbols, and not in the names of the tail.

# Where the enumeration shows

It does not show in the groups, of which a layout asks only who is in them
and how many (`plan_perm`). It shows in the walk of the tail, and there in
the order alone: whatever the walk, each name of the table that the trace
lacks comes up once (`names_remaining_perm`). Sorted by address there is
one walk only, since no address has two entries (`planOf_address`).
-/
import LinkOrder.Proofs.LinkMap.Entries
import LinkOrder.Proofs.Order.Completeness

namespace LinkOrder.Order

section
variable {rule : Eligibility} {table : Table}
variable {entries entries' : List (UInt64 × Symbol)}

/-- Sorted by address, a layout walks the table as it is listed. -/
theorem planOf_address (h : entries.Perm table.toList)
    (trace : List Symbol) :
    planOf rule .address entries trace
      = plan rule table.symbols table.symbols trace := by
  have hsymbols : (entries.map Prod.snd).Perm table.symbols :=
    h.map Prod.snd
  unfold planOf
  dsimp only
  rw [Table.mergeSort_eq_toList h]
  exact plan_perm rule hsymbols _ _

-- =========================================================== the tail

/-- Whatever the walk, no name is in the tail twice. -/
theorem nodup_names_remaining {tail : List Symbol}
    (h : tail.Perm table.symbols) (trace : List Symbol) :
    (names ((plan rule table.symbols tail trace).remaining.map
      Entry.symbol)).Nodup := by
  rw [plan_remaining_of_perm rule h, map_symbol_entryOf]
  exact (nodup_names_firstNamed _).sublist
    (List.filter_sublist.map Symbol.name)

/-- Whatever the walk, the tail has the names that may be ordered and that
the trace lacks. -/
theorem mem_names_remaining {tail : List Symbol}
    (h : tail.Perm table.symbols) (trace : List Symbol) (name : String) :
    name ∈ names ((plan rule table.symbols tail trace).remaining.map
        Entry.symbol)
      ↔ name ∈ names (table.symbols.filter rule.admits)
        ∧ name ∉ names (trace.filter rule.admits) := by
  rw [plan_remaining_of_perm rule h, map_symbol_entryOf,
    mem_names_filter_firstNamed]
  refine and_congr_left fun _ => ?_
  exact ((h.filter rule.admits).map Symbol.name).mem_iff

/-- So any two walks have the same names in the tail. -/
theorem names_remaining_perm {tail tail' : List Symbol}
    (h : tail.Perm table.symbols) (h' : tail'.Perm table.symbols)
    (trace : List Symbol) :
    (names ((plan rule table.symbols tail trace).remaining.map
        Entry.symbol)).Perm
      (names ((plan rule table.symbols tail' trace).remaining.map
        Entry.symbol)) := by
  rw [List.perm_ext_iff_of_nodup (nodup_names_remaining h trace)
    (nodup_names_remaining h' trace)]
  intro name
  rw [mem_names_remaining h, mem_names_remaining h']

-- ======================================================= what is counted

/-- The groups of several symbols are counted entry by entry, with and
without an object file in front. -/
theorem Plan.collisions_eq (plan : Plan) :
    plan.stats.collisionsPrefixed + plan.stats.collisionsUnprefixed
      = plan.entries.countP Entry.isCollision := by
  -- only entries for several symbols are written with an object file
  have hqualified : ∀ e : Entry, (e.isCollision && e.isQualified)
      = e.isQualified := by
    intro e
    unfold Entry.isQualified
    rw [← Bool.and_assoc, Bool.and_self]
  rw [List.countP_eq_countP_filter_add plan.entries Entry.isCollision
    Entry.isQualified, List.countP_filter, List.countP_filter]
  simp only [hqualified]
  rfl

/-- How many entries of the tail speak for several symbols is settled by
its names. -/
theorem countP_isCollision_remaining (symbols tail trace : List Symbol) :
    (plan rule symbols tail trace).remaining.countP Entry.isCollision
      = (names ((plan rule symbols tail trace).remaining.map
          Entry.symbol)).countP fun name =>
            1 < carriers rule symbols name := by
  rw [plan_remaining, map_symbol_entryOf, names, List.countP_map,
    List.countP_map]
  rfl

-- ========================================================== agreement

/-- For every rule and table, every trace, whether or not its symbols are
the table's, and any two enumerations of the table: what is observed is
the same line by line, there are as many entries before and behind the
separator, as many of them speak for several symbols, and the names behind
it are the same. Sorted by address everything is. -/
theorem planOf_agree (order : RemainingOrder)
    (h : entries.Perm table.toList) (h' : entries'.Perm table.toList)
    (trace : List Symbol) :
    let plan := planOf rule order entries trace
    let other := planOf rule order entries' trace
    plan.file.observed = other.file.observed
      ∧ plan.stats.observed = other.stats.observed
      ∧ plan.stats.remaining = other.stats.remaining
      ∧ plan.stats.collisionsPrefixed + plan.stats.collisionsUnprefixed
        = other.stats.collisionsPrefixed + other.stats.collisionsUnprefixed
      ∧ (names (plan.remaining.map Entry.symbol)).Perm
          (names (other.remaining.map Entry.symbol))
      ∧ (order = .address → plan.file = other.file
          ∧ plan.stats = other.stats) := by
  intro plan other
  obtain ⟨tail, htail, hplan⟩ := exists_planOf_eq_plan rule order h trace
  obtain ⟨tail', htail', hother⟩ :=
    exists_planOf_eq_plan rule order h' trace
  have hobserved : plan.observed = other.observed := by
    show (planOf rule order entries trace).observed
      = (planOf rule order entries' trace).observed
    rw [hplan, hother, plan_observed, plan_observed]
  have hnames : (names (plan.remaining.map Entry.symbol)).Perm
      (names (other.remaining.map Entry.symbol)) := by
    show (names ((planOf rule order entries trace).remaining.map _)).Perm
      (names ((planOf rule order entries' trace).remaining.map _))
    rw [hplan, hother]
    exact names_remaining_perm htail htail' trace
  have hremaining : plan.remaining.length = other.remaining.length := by
    simpa [names] using hnames.length_eq
  -- which symbol emits may differ, but not for how many it speaks
  have hcollisions : plan.remaining.countP Entry.isCollision
      = other.remaining.countP Entry.isCollision := by
    show (planOf rule order entries trace).remaining.countP _
      = (planOf rule order entries' trace).remaining.countP _
    rw [hplan, hother, countP_isCollision_remaining,
      countP_isCollision_remaining,
      (names_remaining_perm htail htail' trace).countP_eq]
  refine ⟨congrArg (List.map Entry.line) hobserved,
    congrArg List.length hobserved, hremaining, ?_, hnames, ?_⟩
  · rw [Plan.collisions_eq, Plan.collisions_eq, Plan.entries, Plan.entries,
      List.countP_append, List.countP_append, hobserved, hcollisions]
  · rintro rfl
    have hsame : plan = other :=
      (planOf_address h trace).trans (planOf_address h' trace).symm
    rw [hsame]
    exact ⟨rfl, rfl⟩

end

/-- A trace of which the table of shared names has the last symbol only;
of the one before that it has the name. -/
def foreignTrace : List Symbol :=
  [⟨"_new", .ofDescriptor "/b/z.o"⟩, ⟨"_b", .ofDescriptor "/b/z.o"⟩,
    ⟨"_a", .ofDescriptor "/b/y.o"⟩]

/-- Walked backwards, the table gives another tail; the counts, what is
observed, and all that is sorted stay. -/
theorem planOf_agree_reverse :
    let entries := sharedNameTable.toList
    entries.reverse.Perm sharedNameTable.toList
      ∧ entries.Perm sharedNameTable.toList
      ∧ (planOf ⟨[]⟩ .unspecified entries.reverse []).file.remaining
        ≠ (planOf ⟨[]⟩ .unspecified entries []).file.remaining
      ∧ (planOf ⟨[]⟩ .unspecified entries.reverse []).stats.remaining
        = (planOf ⟨[]⟩ .unspecified entries []).stats.remaining
      ∧ (planOf ⟨[]⟩ .unspecified entries.reverse foreignTrace).file.observed
        = (planOf ⟨[]⟩ .unspecified entries foreignTrace).file.observed
      ∧ (planOf ⟨[]⟩ .address entries.reverse []).file
        = (planOf ⟨[]⟩ .address entries []).file := by
  intro entries
  have hreverse := List.reverse_perm sharedNameTable.toList
  have hself := List.Perm.refl sharedNameTable.toList
  obtain ⟨-, -, hremaining, -⟩ :=
    @planOf_agree ⟨[]⟩ _ _ _ .unspecified hreverse hself []
  obtain ⟨hobserved, -⟩ :=
    @planOf_agree ⟨[]⟩ _ _ _ .unspecified hreverse hself foreignTrace
  obtain ⟨-, -, -, -, -, haddress⟩ :=
    @planOf_agree ⟨[]⟩ _ _ _ .address hreverse hself []
  refine ⟨hreverse, hself, ?_, hremaining, hobserved, (haddress rfl).1⟩
  unfold planOf Plan.file
  dsimp only
  rw [plan_remaining, plan_remaining]
  decide +kernel

end LinkOrder.Order
