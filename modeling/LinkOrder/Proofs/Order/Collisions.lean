/-
Which names are listed as collisions, and how they are written. A group
gathers the entries of a name that may be ordered, and it is listed, and
written with an object file in front, if it has two members or more
(`mem_collisionGroups_iff`). Members are entries, not symbols: what
matters is whether the name stands at two addresses (`two_le_carriers_iff`).

Two object files that define a name put it at two addresses, so a name
that they share is always listed. The converse fails where one object file
has a name at two addresses, and nowhere else: the list is that of the
names shared by object files exactly if every symbol that stands twice has
a namesake in another object file (`collisionGroups_shared_iff`).
-/
import LinkOrder.Proofs.Order.Enumeration

namespace LinkOrder.Order

variable {rule : Eligibility} {symbols : List Symbol}

-- ======================================================== the listing

/-- A name is in the groups with those symbols that the groups give it, if
there are any. -/
theorem mem_toList_groups_iff {groups : Groups} {name : String}
    {members : List Symbol} (hmembers : members ≠ []) :
    (name, members) ∈ groups.toList ↔ groups.members name = members := by
  rw [Std.HashMap.mem_toList_iff_getElem?_eq_some, Groups.members,
    Std.HashMap.getD_eq_getD_getElem?]
  cases groups[name]? with
  | none => simpa using hmembers.symm
  | some held => simp

/-- What is listed are the groups of two symbols or more. -/
theorem mem_collisionGroups_iff {name : String} {members : List Symbol} :
    (name, members) ∈ collisionGroups rule symbols
      ↔ (symbols.filter fun s => rule.admits s && s.name = name) = members
        ∧ 2 ≤ members.length := by
  unfold collisionGroups
  rw [List.mem_mergeSort, List.mem_filter, decide_eq_true_eq]
  refine and_congr_left fun hlength => ?_
  have hmembers : members ≠ [] := by
    rintro rfl
    cases hlength
  rw [mem_toList_groups_iff hmembers, members_groupsOf]

/-- A name is listed if two symbols of the row carry it. -/
theorem mem_map_fst_collisionGroups_iff {name : String} :
    name ∈ (collisionGroups rule symbols).map Prod.fst
      ↔ 2 ≤ carriers rule symbols name := by
  rw [carriers, List.countP_eq_length_filter, List.mem_map]
  constructor
  · intro hlisted
    obtain ⟨⟨_, members⟩, hgroup, rfl⟩ := hlisted
    obtain ⟨rfl, hlength⟩ := mem_collisionGroups_iff.1 hgroup
    exact hlength
  · intro hlength
    exact ⟨(name, _), mem_collisionGroups_iff.2 ⟨rfl, hlength⟩, rfl⟩

/-- No name is listed twice. -/
theorem nodup_map_fst_collisionGroups (rule : Eligibility)
    (symbols : List Symbol) :
    ((collisionGroups rule symbols).map Prod.fst).Nodup := by
  unfold collisionGroups
  rw [((List.mergeSort_perm _ _).map Prod.fst).nodup_iff]
  have hkeys : ((groupsOf rule symbols).toList.map Prod.fst).Nodup := by
    rw [Std.HashMap.map_fst_toList_eq_keys]
    exact Std.HashMap.nodup_keys
  exact hkeys.sublist (List.filter_sublist.map Prod.fst)

/-- An entry is written with its object file, if that has a form for it,
exactly if its name is listed. -/
theorem line_entryOf_eq (rule : Eligibility) (symbols : List Symbol)
    (s : Symbol) :
    (entryOf rule symbols s).line
      = if s.name ∈ (collisionGroups rule symbols).map Prod.fst then
          s.qualifiedName
        else s.name := by
  simp only [mem_map_fst_collisionGroups_iff]
  unfold Entry.line Entry.isCollision
  simp only [decide_eq_true_eq]
  rfl

/-- The entries of a layout are those of some row of symbols. -/
theorem entries_plan (tail trace : List Symbol) :
    ∃ row : List Symbol, (plan rule symbols tail trace).entries
      = row.map (entryOf rule symbols) := by
  refine ⟨emitters rule symbols [] trace
    ++ emitters rule symbols trace tail, ?_⟩
  rw [Plan.entries, plan_observed, plan_remaining, List.map_append]

-- ========================================================== addresses

section
variable {table : Table}

/-- A name stands at two addresses, for symbols that may be ordered. -/
def StandsTwice (rule : Eligibility) (table : Table) (name : String) :
    Prop :=
  ∃ a b s t, a ≠ b ∧ table.get? a = some s ∧ table.get? b = some t
    ∧ rule.admits s ∧ rule.admits t ∧ s.name = name ∧ t.name = name

/-- Two object files define a name, for symbols that may be ordered. -/
def IsShared (rule : Eligibility) (table : Table) (name : String) : Prop :=
  ∃ s ∈ table.symbols, ∃ t ∈ table.symbols,
    rule.admits s ∧ rule.admits t ∧ s.name = name ∧ t.name = name
      ∧ s.object ≠ t.object

/-- Two entries of a table carry a name if they stand at two addresses. -/
theorem two_le_carriers_iff {name : String} :
    2 ≤ carriers rule table.symbols name ↔ StandsTwice rule table name := by
  have hcarries : carriers rule table.symbols name
      = (table.toList.filter fun row =>
          rule.admits row.2 && row.2.name = name).length := by
    rw [carriers, Table.symbols, List.countP_map,
      List.countP_eq_length_filter]
    rfl
  have hmem : ∀ row, row ∈ (table.toList.filter fun row =>
        rule.admits row.2 && row.2.name = name)
      ↔ table.get? row.1 = some row.2 ∧ rule.admits row.2
        ∧ row.2.name = name := by
    intro row
    rw [List.mem_filter, Table.mem_toList_iff]
    simp
  have hpairwise := table.pairwise_toList.filter fun row =>
    rule.admits row.2 && row.2.name = name
  rw [hcarries]
  -- the two rows are all that matters from here on, not how they were found
  generalize table.toList.filter (fun row =>
    rule.admits row.2 && row.2.name = name) = held at hmem hpairwise
  constructor
  · intro hlength
    -- two entries of a list that ascends stand at two addresses
    obtain ⟨row, later, rest, rfl⟩ :
        ∃ row later rest, held = row :: later :: rest := by
      rcases held with _ | ⟨row, _ | ⟨later, rest⟩⟩
      · simp at hlength
      · simp at hlength
      · exact ⟨row, later, rest, rfl⟩
    obtain ⟨hrow, hadmits, hname⟩ := (hmem row).1 (by simp)
    obtain ⟨hlater, hadmits', hname'⟩ := (hmem later).1 (by simp)
    have hlt : row.1 < later.1 :=
      (List.pairwise_cons.1 hpairwise).1 later (by simp)
    exact ⟨row.1, later.1, row.2, later.2, UInt64.ne_of_lt hlt, hrow,
      hlater, hadmits, hadmits', hname, hname'⟩
  · intro htwice
    obtain ⟨a, b, s, t, hne, hs, ht, hadmits, hadmits', hname, hname'⟩ :=
      htwice
    have hsheld : (a, s) ∈ held := (hmem (a, s)).2 ⟨hs, hadmits, hname⟩
    have htheld : (b, t) ∈ held := (hmem (b, t)).2 ⟨ht, hadmits', hname'⟩
    by_contra hshort
    -- with one entry at most, the two addresses would be one
    obtain ⟨row, hrow⟩ : ∃ row, held ⊆ [row] := by
      rcases held with _ | ⟨row, _ | ⟨later, rest⟩⟩
      · exact ⟨(a, s), List.nil_subset _⟩
      · exact ⟨row, List.Subset.refl _⟩
      · exact absurd (by simp) hshort
    have hsame : (a, s) = (b, t) := by
      rw [List.mem_singleton.1 (hrow hsheld),
        List.mem_singleton.1 (hrow htheld)]
    exact hne (Prod.ext_iff.1 hsame).1

/-- What two object files define stands at two addresses. -/
theorem IsShared.standsTwice {name : String}
    (h : IsShared rule table name) : StandsTwice rule table name := by
  obtain ⟨s, hs, t, ht, hadmits, hadmits', hname, hname', hobject⟩ := h
  obtain ⟨a, ha⟩ := Table.mem_symbols_iff.1 hs
  obtain ⟨b, hb⟩ := Table.mem_symbols_iff.1 ht
  refine ⟨a, b, s, t, ?_, ha, hb, hadmits, hadmits', hname, hname'⟩
  rintro rfl
  rw [ha] at hb
  cases hb
  exact hobject rfl

-- ========================================================= the result

/-- Names stand twice only where object files share them, exactly if every
symbol that stands twice has a namesake in another object file. -/
theorem standsTwice_iff_isShared_iff :
    (∀ name, StandsTwice rule table name ↔ IsShared rule table name)
      ↔ ∀ a b s, a ≠ b → table.get? a = some s → table.get? b = some s →
          rule.admits s → ∃ t ∈ table.symbols,
            rule.admits t ∧ t.name = s.name ∧ t.object ≠ s.object := by
  constructor
  · intro hall a b s hne ha hb hadmits
    obtain ⟨u, hu, v, hv, hadmitsU, hadmitsV, hnameU, hnameV, hobject⟩ :=
      (hall s.name).1 ⟨a, b, s, s, hne, ha, hb, hadmits, hadmits, rfl, rfl⟩
    -- of two object files one at least is not that of `s`
    by_cases hsame : u.object = s.object
    · exact ⟨v, hv, hadmitsV, hnameV, fun heq =>
        hobject (hsame.trans heq.symm)⟩
    · exact ⟨u, hu, hadmitsU, hnameU, hsame⟩
  · intro hnamesake name
    refine ⟨fun htwice => ?_, IsShared.standsTwice⟩
    obtain ⟨a, b, s, t, hne, ha, hb, hadmits, hadmits', hname, hname'⟩ :=
      htwice
    have hs := Table.mem_symbols_iff.2 ⟨a, ha⟩
    have ht := Table.mem_symbols_iff.2 ⟨b, hb⟩
    by_cases hobject : s.object = t.object
    · -- one symbol at two addresses
      have hsame : s = t := by
        cases s
        cases t
        cases hobject
        cases hname.trans hname'.symm
        rfl
      obtain ⟨u, hu, hadmitsU, hnameU, hother⟩ :=
        hnamesake a b s hne ha (hsame ▸ hb) hadmits
      exact ⟨u, hu, s, hs, hadmitsU, hadmits, hnameU.trans hname, hname,
        hother⟩
    · exact ⟨s, hs, t, ht, hadmits, hadmits', hname, hname', hobject⟩

/-- The lines of an order file, each with its object file in front exactly
if its name is listed. -/
theorem lines_planOf (rule : Eligibility) (order : RemainingOrder)
    (entries : List (UInt64 × Symbol)) (trace : List Symbol) :
    let groups := collisionGroups rule (entries.map Prod.snd)
    let plan := planOf rule order entries trace
    plan.file.observed ++ plan.file.remaining
      = (plan.entries.map Entry.symbol).map fun s =>
          if s.name ∈ groups.map Prod.fst then s.qualifiedName
          else s.name := by
  intro groups plan
  obtain ⟨row, hrow⟩ : ∃ row : List Symbol, plan.entries
      = row.map (entryOf rule (entries.map Prod.snd)) :=
    entries_plan _ trace
  show plan.observed.map Entry.line ++ plan.remaining.map Entry.line = _
  rw [← List.map_append]
  show plan.entries.map Entry.line = _
  rw [hrow, map_symbol_entryOf, List.map_map]
  exact List.map_congr_left fun s _ => line_entryOf_eq rule _ s

/-- For every rule and table, every enumeration of the table and every
trace: a name is listed once or not at all, with all symbols of the table
that carry it and may be ordered; listed are the names that stand at two
addresses for such symbols; and exactly these are written with the object
file of the symbol for which they are written, where that has a form for
it. These are the names that two object files define exactly if each
symbol that may be ordered and stands at two addresses has a namesake in
another object file. -/
theorem collisionGroups_shared_iff (order : RemainingOrder)
    {entries : List (UInt64 × Symbol)} (h : entries.Perm table.toList)
    (trace : List Symbol) :
    let groups := collisionGroups rule (entries.map Prod.snd)
    let plan := planOf rule order entries trace
    (groups.map Prod.fst).Nodup
      ∧ (∀ group ∈ groups, group.2.Perm (table.symbols.filter fun s =>
          rule.admits s && s.name = group.1))
      ∧ (∀ name, name ∈ groups.map Prod.fst ↔ StandsTwice rule table name)
      ∧ plan.file.observed ++ plan.file.remaining
        = (plan.entries.map Entry.symbol).map (fun s =>
            if s.name ∈ groups.map Prod.fst then s.qualifiedName
            else s.name)
      ∧ ((∀ name, name ∈ groups.map Prod.fst ↔ IsShared rule table name)
        ↔ ∀ a b s, a ≠ b → table.get? a = some s → table.get? b = some s →
            rule.admits s → ∃ t ∈ table.symbols,
              rule.admits t ∧ t.name = s.name ∧ t.object ≠ s.object) := by
  intro groups plan
  have hsymbols : (entries.map Prod.snd).Perm table.symbols :=
    h.map Prod.snd
  have hlisted : ∀ name, name ∈ groups.map Prod.fst
      ↔ StandsTwice rule table name := by
    intro name
    rw [mem_map_fst_collisionGroups_iff, carriers_perm hsymbols,
      two_le_carriers_iff]
  refine ⟨nodup_map_fst_collisionGroups _ _, fun group hgroup => ?_,
    hlisted, ?_, ?_⟩
  · obtain ⟨hmembers, -⟩ := mem_collisionGroups_iff.1 hgroup
    rw [← hmembers]
    exact hsymbols.filter _
  · exact lines_planOf rule order entries trace
  · simp only [hlisted]
    exact standsTwice_iff_isShared_iff

end

/-- In the table of shared names one object file has a name at two
addresses, but another has it as well. -/
theorem collisionGroups_shared_iff_sharedName :
    let entries := sharedNameTable.toList.reverse
    let rule : Eligibility := ⟨["libAds"]⟩
    entries.Perm sharedNameTable.toList
      ∧ ("_a" ∈ (collisionGroups rule (entries.map Prod.snd)).map Prod.fst)
      ∧ ∀ name, name ∈ (collisionGroups rule
          (entries.map Prod.snd)).map Prod.fst
        ↔ IsShared rule sharedNameTable name := by
  intro entries rule
  have hentries := List.reverse_perm sharedNameTable.toList
  obtain ⟨-, -, hlisted, -, hshared⟩ :=
    @collisionGroups_shared_iff rule _ .unspecified _ hentries []
  have hrows : ∀ row ∈ sharedNameTable.toList,
      ∀ later ∈ sharedNameTable.toList, row.1 ≠ later.1 →
        row.2 = later.2 → rule.admits row.2 →
          ∃ t ∈ sharedNameTable.symbols, rule.admits t
            ∧ t.name = row.2.name ∧ t.object ≠ row.2.object := by
    decide +kernel
  refine ⟨hentries, (hlisted "_a").2 ?_, hshared.2 ?_⟩
  · refine ⟨0x1000, 0x1010, ⟨"_a", .ofDescriptor "/b/x.o"⟩,
      ⟨"_a", .ofDescriptor "/b/y.o"⟩, ?_⟩
    decide +kernel
  · intro a b s hne ha hb hadmits
    exact hrows (a, s) (Table.mem_toList_iff.2 ha) (b, s)
      (Table.mem_toList_iff.2 hb) hne rfl hadmits

/-- A table in which one object file has a name at two addresses, and no
other has it. -/
def oneObjectTable : Table :=
  [(0x1000, ⟨"_f", .ofDescriptor "/b/a.o"⟩),
    (0x1010, ⟨"_f", .ofDescriptor "/b/a.o"⟩)].foldl
      (fun table row => table.insert row.1 row.2)
      (.ofBounds ⟨0x1000, 0x100⟩)

/-- That name is listed, and written with the object file, although no
other object file defines it. -/
theorem listed_of_one_object :
    let rule : Eligibility := ⟨[]⟩
    let groups := collisionGroups rule oneObjectTable.symbols
    ("_f" ∈ groups.map Prod.fst)
      ∧ ¬ IsShared rule oneObjectTable "_f"
      ∧ ¬ (∀ name, name ∈ groups.map Prod.fst
          ↔ IsShared rule oneObjectTable name)
      ∧ (oneObjectTable.plan rule .address []).file
        = ⟨[], ["a.o:_f"]⟩ := by
  intro rule groups
  have hlisted : "_f" ∈ groups.map Prod.fst := by
    rw [mem_map_fst_collisionGroups_iff]
    decide +kernel
  have hnotShared : ¬ IsShared rule oneObjectTable "_f" := by
    unfold IsShared
    decide +kernel
  refine ⟨hlisted, hnotShared, fun hall => ?_, ?_⟩
  · exact hnotShared ((hall "_f").1 hlisted)
  · rw [Table.plan, planOf_address (.refl _), Plan.file, plan_observed,
      plan_remaining]
    decide +kernel

end LinkOrder.Order
