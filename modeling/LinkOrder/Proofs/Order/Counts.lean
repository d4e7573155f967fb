/-
What the counts of a layout say. The entries that speak for several
symbols are counted as they are emitted, while the groups of several
symbols are listed from the table; and both come to the same, since of
each group exactly one member emits.

What a layout of the table's own symbols emits is a row with one symbol
for each name that may be ordered (`Speaks`). The names that such a row
shares with other entries are those of the listed groups
(`Speaks.map_fst_perm`), so it has a member of each group, once
(`Speaks.countP_mem`), and as many of them as there are groups
(`Speaks.countP_carriers`). Whatever is counted over these members may be
counted over the groups instead, by the one that emits
(`Speaks.countP_shared`).

An entry counts as prefixed if its line is (`isPrefixed_eq_isQualified`).
Whether it is cannot be read off the line alone, since names may have
colons of their own; it is a matter of the line and the emitter.
-/
import LinkOrder.Proofs.Order.Collisions

namespace LinkOrder.Order

-- ============================================================ entries

/-- The line is the name behind the form of the emitter's own object
file. -/
def Entry.isPrefixed (entry : Entry) : Bool :=
  entry.symbol.object.qualifier?.any fun file =>
    entry.line = file ++ ":" ++ entry.symbol.name

/-- So are the lines of the entries that are written with an object file,
and no others. -/
theorem Entry.isPrefixed_eq_isQualified (entry : Entry) :
    entry.isPrefixed = entry.isQualified := by
  unfold isPrefixed isQualified line Symbol.qualifiedName
  -- without a form for its object file an entry is neither
  cases hfile : entry.symbol.object.qualifier? with
  | none => simp
  | some file =>
      cases entry.isCollision with
      | true => simp
      | false =>
          -- a name is shorter than what has a colon in front of it
          have hne : entry.symbol.name
              ≠ file ++ ":" ++ entry.symbol.name := by
            intro heq
            have hlength := congrArg String.length heq
            simp only [String.length_append] at hlength
            have hcolon : ":".length = 1 := by decide
            omega
          simp [hne]

/-- Of the entries for several symbols the others are those whose object
file has no form. -/
theorem Entry.isCollision_and_not_isQualified (entry : Entry) :
    (entry.isCollision && !entry.isQualified)
      = (decide (entry.symbol.object.qualifier? = none)
        && entry.isCollision) := by
  unfold isQualified
  cases entry.isCollision <;> cases entry.symbol.object.qualifier? <;> rfl

-- ======================================================== one per name

/-- Symbols that may be ordered, one for each name that has such. -/
structure Speaks (rule : Eligibility) (symbols emitted : List Symbol) :
    Prop where
  eligible : ∀ s ∈ emitted, s ∈ symbols ∧ rule.admits s
  once : (names emitted).Nodup
  complete : ∀ s ∈ symbols, rule.admits s → s.name ∈ names emitted

namespace Speaks

variable {rule : Eligibility} {symbols emitted : List Symbol}
  {group : String × List Symbol}

/-- A symbol is a member of a listed group if the name is its own. -/
theorem mem_group_iff (h : Speaks rule symbols emitted)
    (hgroup : group ∈ collisionGroups rule symbols) {s : Symbol}
    (hs : s ∈ emitted) : s ∈ group.2 ↔ s.name = group.1 := by
  obtain ⟨hmembers, -⟩ := mem_collisionGroups_iff.1 hgroup
  obtain ⟨hmem, hadmits⟩ := h.eligible s hs
  rw [← hmembers, List.mem_filter]
  simp [hmem, hadmits]

/-- A listed name has a symbol that speaks for it. -/
theorem mem_names_of_listed (h : Speaks rule symbols emitted)
    {name : String} (hcarriers : 2 ≤ carriers rule symbols name) :
    name ∈ names emitted := by
  obtain ⟨s, hs, hcarries⟩ := List.countP_pos_iff.1
    (Nat.lt_of_lt_of_le Nat.zero_lt_two hcarriers)
  rw [Bool.and_eq_true, decide_eq_true_eq] at hcarries
  obtain ⟨hadmits, rfl⟩ := hcarries
  exact h.complete s hs hadmits

/-- Of each listed group there is one. -/
theorem countP_mem (h : Speaks rule symbols emitted)
    (hgroup : group ∈ collisionGroups rule symbols) :
    emitted.countP (· ∈ group.2) = 1 := by
  have hlisted := mem_map_fst_collisionGroups_iff.1
    (List.mem_map_of_mem (f := Prod.fst) hgroup)
  -- its name comes once, and members are known by their names
  have hone := List.count_eq_one_of_mem h.once (h.mem_names_of_listed hlisted)
  rw [names, List.count, List.countP_map] at hone
  rw [← hone]
  refine List.countP_congr fun s hs => ?_
  simp [h.mem_group_iff hgroup hs]

/-- The listed names are those of the symbols whose names are shared. -/
theorem map_fst_perm (h : Speaks rule symbols emitted) :
    ((collisionGroups rule symbols).map Prod.fst).Perm
      (names (emitted.filter fun s =>
        2 ≤ carriers rule symbols s.name)) := by
  have hnodup : (names (emitted.filter fun s =>
      2 ≤ carriers rule symbols s.name)).Nodup :=
    h.once.sublist (List.filter_sublist.map Symbol.name)
  -- neither row says a name twice, so they need only have the same ones
  rw [List.perm_ext_iff_of_nodup (nodup_map_fst_collisionGroups _ _) hnodup]
  intro name
  rw [mem_map_fst_collisionGroups_iff, mem_names]
  constructor
  · intro hcarriers
    obtain ⟨s, hs, rfl⟩ := mem_names.1 (h.mem_names_of_listed hcarriers)
    exact ⟨s, List.mem_filter.2 ⟨hs, decide_eq_true hcarriers⟩, rfl⟩
  · intro hshared
    obtain ⟨s, hs, rfl⟩ := hshared
    exact of_decide_eq_true (List.mem_filter.1 hs).2

/-- What is counted over symbols of shared names may be counted over the
groups, by the symbols that speak for them. -/
theorem countP_shared (h : Speaks rule symbols emitted)
    (p : Symbol → Bool) :
    (emitted.countP fun s => p s && 2 ≤ carriers rule symbols s.name)
      = (collisionGroups rule symbols).countP fun group =>
          ∃ s ∈ emitted, s ∈ group.2 ∧ p s := by
  have hgroups : ((collisionGroups rule symbols).countP fun group =>
        ∃ s ∈ emitted, s ∈ group.2 ∧ p s)
      = ((collisionGroups rule symbols).map Prod.fst).countP fun name =>
          ∃ s ∈ emitted, s.name = name ∧ p s := by
    rw [List.countP_map]
    refine List.countP_congr fun group hgroup => ?_
    simp only [decide_eq_true_eq, Function.comp_apply]
    refine exists_congr fun s => and_congr_right fun hs => ?_
    rw [h.mem_group_iff hgroup hs]
  rw [hgroups, h.map_fst_perm.countP_eq, names, List.countP_map,
    ← List.countP_filter]
  refine List.countP_congr fun s hs => ?_
  have hmem := List.mem_of_mem_filter hs
  simp only [Function.comp_apply, decide_eq_true_eq]
  constructor
  · exact fun hp => ⟨s, hmem, rfl, hp⟩
  · intro hspeaker
    -- whoever speaks for the name of `s` is `s`
    obtain ⟨t, ht, hname, hp⟩ := hspeaker
    rwa [← List.inj_on_of_nodup_map h.once ht hmem hname]

/-- There are as many symbols of shared names as groups. -/
theorem countP_carriers (h : Speaks rule symbols emitted) :
    (emitted.countP fun s => 2 ≤ carriers rule symbols s.name)
      = (collisionGroups rule symbols).length := by
  have hlength := h.map_fst_perm.length_eq
  rw [names, List.length_map, List.length_map,
    ← List.countP_eq_length_filter] at hlength
  exact hlength.symm

end Speaks

-- ============================================================= layouts

section
variable {rule : Eligibility} {order : RemainingOrder} {table : Table}
variable {entries listed : List (UInt64 × Symbol)} {trace : List Symbol}

/-- What emits in a layout of the table's own symbols speaks for the
table, however that is enumerated. -/
theorem exists_speaks_planOf (hentries : entries.Perm table.toList)
    (hlisted : listed.Perm table.toList)
    (htrace : ∀ s ∈ trace, s ∈ table.symbols) :
    ∃ emitted, Speaks rule (listed.map Prod.snd) emitted
      ∧ (planOf rule order entries trace).entries
        = emitted.map (entryOf rule (listed.map Prod.snd)) := by
  have hsymbols : (listed.map Prod.snd).Perm table.symbols :=
    hlisted.map Prod.snd
  obtain ⟨row, hrow, hplan⟩ := planOf_entries rule order hentries htrace
  refine ⟨firstNamed (row.filter rule.admits), ⟨?_, ?_, ?_⟩, ?_⟩
  · intro s hs
    have hmem := (firstNamed_sublist _).subset hs
    obtain ⟨hmem, hadmits⟩ := List.mem_filter.1 hmem
    exact ⟨hsymbols.mem_iff.2 ((hrow s).1 hmem), hadmits⟩
  · exact nodup_names_firstNamed _
  · intro s hs hadmits
    rw [mem_names_firstNamed]
    refine name_mem_names (List.mem_filter.2 ⟨?_, hadmits⟩)
    exact (hrow s).2 (hsymbols.mem_iff.1 hs)
  · rw [hplan, entryOf_perm rule hsymbols]

/-- As many collisions are counted as groups are listed. -/
theorem collisions_planOf (hentries : entries.Perm table.toList)
    (hlisted : listed.Perm table.toList)
    (htrace : ∀ s ∈ trace, s ∈ table.symbols) :
    (planOf rule order entries trace).stats.collisions
      = (collisionGroups rule (listed.map Prod.snd)).length := by
  obtain ⟨emitted, hspeaks, hplan⟩ := @exists_speaks_planOf rule order
    _ _ _ _ hentries hlisted htrace
  rw [PlanStats.collisions, Plan.collisions_eq, hplan, List.countP_map]
  exact hspeaks.countP_carriers

/-- Of each listed group one member emits, and once. -/
theorem countP_emits_planOf (hentries : entries.Perm table.toList)
    (hlisted : listed.Perm table.toList)
    (htrace : ∀ s ∈ trace, s ∈ table.symbols)
    {group : String × List Symbol}
    (hgroup : group ∈ collisionGroups rule (listed.map Prod.snd)) :
    (planOf rule order entries trace).entries.countP
      (·.symbol ∈ group.2) = 1 := by
  obtain ⟨emitted, hspeaks, hplan⟩ := @exists_speaks_planOf rule order
    _ _ _ _ hentries hlisted htrace
  rw [hplan, List.countP_map]
  exact hspeaks.countP_mem hgroup

/-- Counted as prefixed are the entries whose lines are. -/
theorem Plan.collisionsPrefixed_eq (plan : Plan) :
    plan.stats.collisionsPrefixed
      = plan.entries.countP Entry.isPrefixed := by
  show plan.entries.countP Entry.isQualified = _
  refine List.countP_congr fun e _ => ?_
  rw [e.isPrefixed_eq_isQualified]

/-- Counted as unprefixed are the groups for which a member emits that has
no form to give. -/
theorem unprefixed_planOf (hentries : entries.Perm table.toList)
    (hlisted : listed.Perm table.toList)
    (htrace : ∀ s ∈ trace, s ∈ table.symbols) :
    let plan := planOf rule order entries trace
    plan.stats.collisionsUnprefixed
      = (collisionGroups rule (listed.map Prod.snd)).countP fun group =>
          ∃ e ∈ plan.entries, e.symbol ∈ group.2
            ∧ e.symbol.object.qualifier? = none := by
  intro plan
  obtain ⟨emitted, hspeaks, hplan⟩ := @exists_speaks_planOf rule order
    _ _ _ _ hentries hlisted htrace
  calc plan.entries.countP (fun e => e.isCollision && !e.isQualified)
      = emitted.countP fun s => s.object.qualifier? = none
          && 2 ≤ carriers rule (listed.map Prod.snd) s.name := by
        rw [hplan, List.countP_map]
        refine List.countP_congr fun s _ => ?_
        rw [Function.comp_apply, Entry.isCollision_and_not_isQualified]
        rfl
    _ = (collisionGroups rule (listed.map Prod.snd)).countP fun group =>
          ∃ s ∈ emitted, s ∈ group.2
            ∧ decide (s.object.qualifier? = none) :=
        hspeaks.countP_shared _
    _ = _ := by
        refine List.countP_congr fun group _ => ?_
        rw [hplan]
        simp [entryOf]

end

end LinkOrder.Order
