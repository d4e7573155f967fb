/-
What a layout emits, said without the set it carries along. The layout
claims symbols as it goes, the whole group of a symbol at once, and emits
an entry for whatever has not been claimed; here the claimed set is read
back into a condition on the symbols reached before.

# The invariant

After the symbols `reached`, the claimed set holds a symbol exactly when
`Claimed` says so: some symbol reached before it that may be ordered
either is that very symbol or shares its name, the claimed one being an
eligible symbol of the table. One emission keeps this (`mem_claims_emit`)
because of a symbol that was claimed before, the group was claimed with it
(`claimed_of_claimed`). A row of emissions keeps it by induction
(`mem_claims_emitAll`), and what the row emits is then the look-back
recursion `emitters` (`emitAll_entries`).

# Where all symbols are the table's

A symbol that is in the table and may be ordered is claimed exactly when
its name has been reached (`claimed_iff_of_mem`), so the emitters of a row
of such symbols are the first of each name that was not reached before
(`emitters_of_subset`).
-/
import LinkOrder.Proofs.Order.Names

namespace LinkOrder.Order

variable {rule : Eligibility} {symbols : List Symbol}

-- ================================================ groups as filters

/-- Adding symbols to groups lengthens each by the symbols of its
name. -/
theorem members_foldl_add (name : String) (l : List Symbol)
    (groups : Groups) :
    Groups.members (l.foldl Groups.add groups) name
      = groups.members name ++ l.filter fun s => s.name = name := by
  induction l generalizing groups with
  | nil => simp
  | cons s rest ih =>
      rw [List.foldl_cons, ih]
      unfold Groups.members Groups.add
      rw [Std.HashMap.getD_insert]
      -- a symbol joins the group of its name and no other
      by_cases hs : s.name = name
      · simp [hs]
      · simp [hs]

/-- The group of a name holds the symbols of that name that may be
ordered, in the order in which they were given. -/
theorem members_groupsOf (rule : Eligibility) (symbols : List Symbol)
    (name : String) :
    (groupsOf rule symbols).members name
      = symbols.filter fun s => rule.admits s && s.name = name := by
  unfold groupsOf
  rw [members_foldl_add]
  simp [Groups.members, List.filter_filter, Bool.and_comm]

/-- So a group is known by membership too. -/
theorem mem_members_groupsOf {s : Symbol} {name : String} :
    s ∈ (groupsOf rule symbols).members name
      ↔ s ∈ symbols ∧ rule.admits s ∧ s.name = name := by
  rw [members_groupsOf, List.mem_filter]
  simp

/-- A group has as many members as its name has carriers. -/
theorem length_members_groupsOf (rule : Eligibility)
    (symbols : List Symbol) (name : String) :
    ((groupsOf rule symbols).members name).length
      = carriers rule symbols name := by
  rw [members_groupsOf, carriers, List.countP_eq_length_filter]

-- ==================================================== the invariant

/-- What the symbols reached so far have claimed: themselves, if they may
be ordered, and every eligible symbol of the table that shares a name with
one of them. -/
def Claimed (rule : Eligibility) (symbols reached : List Symbol)
    (s : Symbol) : Prop :=
  ∃ t ∈ reached, rule.admits t
    ∧ (s = t ∨ s ∈ symbols ∧ rule.admits s ∧ s.name = t.name)

instance (reached : List Symbol) (s : Symbol) :
    Decidable (Claimed rule symbols reached s) :=
  inferInstanceAs (Decidable (∃ t ∈ reached, rule.admits t
    ∧ (s = t ∨ s ∈ symbols ∧ rule.admits s ∧ s.name = t.name)))

/-- Nothing is claimed before a symbol is reached. -/
theorem not_claimed_nil (s : Symbol) : ¬ Claimed rule symbols [] s := by
  intro hclaimed
  obtain ⟨t, ht, -⟩ := hclaimed
  cases ht

/-- One more symbol claims itself and its group, if it may be ordered. -/
theorem claimed_concat {reached : List Symbol} {t s : Symbol} :
    Claimed rule symbols (reached ++ [t]) s
      ↔ Claimed rule symbols reached s
        ∨ rule.admits t
          ∧ (s = t ∨ s ∈ symbols ∧ rule.admits s ∧ s.name = t.name) := by
  unfold Claimed
  simp only [List.mem_append, List.mem_singleton, or_and_right, exists_or,
    exists_eq_left]

/-- Of a symbol that has been claimed, the whole group has. -/
theorem claimed_of_claimed {reached : List Symbol} {t s : Symbol}
    (ht : Claimed rule symbols reached t)
    (hs : s ∈ symbols ∧ rule.admits s ∧ s.name = t.name) :
    Claimed rule symbols reached s := by
  obtain ⟨u, hu, hadmits, rfl | ⟨-, -, hname⟩⟩ := ht
  · exact ⟨t, hu, hadmits, Or.inr hs⟩
  · exact ⟨u, hu, hadmits, Or.inr ⟨hs.1, hs.2.1, hs.2.2.trans hname⟩⟩

/-- A symbol of the table that may be ordered is claimed as soon as its
name is. -/
theorem claimed_iff_of_mem {reached : List Symbol} {s : Symbol}
    (hmem : s ∈ symbols) (hadmits : rule.admits s) :
    Claimed rule symbols reached s
      ↔ s.name ∈ names (reached.filter rule.admits) := by
  rw [mem_names]
  constructor
  · intro hclaimed
    -- either way a symbol of its name was reached
    obtain ⟨t, ht, hrule, rfl | ⟨-, -, hname⟩⟩ := hclaimed
    · exact ⟨s, List.mem_filter.2 ⟨ht, hrule⟩, rfl⟩
    · exact ⟨t, List.mem_filter.2 ⟨ht, hrule⟩, hname.symm⟩
  · intro hnamed
    obtain ⟨t, ht, hname⟩ := hnamed
    obtain ⟨ht, hrule⟩ := List.mem_filter.1 ht
    exact ⟨t, ht, hrule, Or.inr ⟨hmem, hadmits, hname.symm⟩⟩

-- ====================================================== one emission

/-- The entry of a symbol. -/
def entryOf (rule : Eligibility) (symbols : List Symbol) (s : Symbol) :
    Entry where
  symbol := s
  members := carriers rule symbols s.name

/-- How a symbol is written in an order file: its name, and the name of
its object file before that where several symbols that may be ordered
carry the name. An object file without such a form is left out. -/
def lineOf (rule : Eligibility) (symbols : List Symbol) (s : Symbol) :
    String :=
  match s.object.qualifier? with
  | some file =>
      if 2 ≤ carriers rule symbols s.name then file ++ ":" ++ s.name
      else s.name
  | none => s.name

/-- That is by its qualified name, or by its name alone. -/
theorem lineOf_eq (rule : Eligibility) (symbols : List Symbol)
    (s : Symbol) :
    lineOf rule symbols s
      = if 2 ≤ carriers rule symbols s.name then s.qualifiedName
        else s.name := by
  unfold lineOf Symbol.qualifiedName
  cases s.object.qualifier? <;> simp

/-- An entry is written as its symbol is. -/
theorem line_entryOf (rule : Eligibility) (symbols : List Symbol)
    (s : Symbol) :
    (entryOf rule symbols s).line = lineOf rule symbols s := by
  unfold Entry.line Entry.isCollision entryOf lineOf Symbol.qualifiedName
  by_cases hcarriers : 2 ≤ carriers rule symbols s.name
  · cases s.object.qualifier? <;> simp [Nat.lt_iff_add_one_le, hcarriers]
  · cases s.object.qualifier? <;> simp [Nat.lt_iff_add_one_le, hcarriers]

/-- A symbol emits its entry if it may be ordered and has not been
claimed. -/
theorem emit_entry {claims : Std.HashSet Symbol} {reached : List Symbol}
    (h : ∀ s, s ∈ claims ↔ Claimed rule symbols reached s) (s : Symbol) :
    (emit rule (groupsOf rule symbols) claims s).1
      = if rule.admits s ∧ ¬ Claimed rule symbols reached s then
          some (entryOf rule symbols s)
        else none := by
  unfold emit
  have hcontains := h s
  rw [Std.HashSet.mem_iff_contains] at hcontains
  by_cases hadmits : rule.admits s
  · by_cases hclaimed : Claimed rule symbols reached s
    · simp [hclaimed, hcontains.2 hclaimed]
    · have hnot : claims.contains s = false := by
        rw [← Bool.not_eq_true, hcontains]
        exact hclaimed
      simp [hadmits, hclaimed, hnot, entryOf, length_members_groupsOf]
  · simp [hadmits]

/-- One emission keeps the invariant. -/
theorem mem_claims_emit {claims : Std.HashSet Symbol}
    {reached : List Symbol}
    (h : ∀ s, s ∈ claims ↔ Claimed rule symbols reached s) (t s : Symbol) :
    s ∈ (emit rule (groupsOf rule symbols) claims t).2
      ↔ Claimed rule symbols (reached ++ [t]) s := by
  unfold emit
  rw [claimed_concat]
  have hcontains := h t
  rw [Std.HashSet.mem_iff_contains] at hcontains
  by_cases hadmits : rule.admits t
  · by_cases hclaimed : Claimed rule symbols reached t
    · -- nothing is emitted, and there is nothing left to claim
      simp only [hadmits, hcontains.2 hclaimed, Bool.not_true,
        Bool.or_true, if_true, true_and, h]
      constructor
      · exact Or.inl
      · intro hor
        rcases hor with hs | rfl | hs
        · exact hs
        · exact hclaimed
        · exact claimed_of_claimed hclaimed hs
    · -- an entry is emitted, and its group is claimed along with it
      have hnot : claims.contains t = false := by
        rw [← Bool.not_eq_true, hcontains]
        exact hclaimed
      simp only [hadmits, hnot, Bool.not_true, Bool.or_self,
        Bool.false_eq_true, if_false, true_and, Std.HashSet.mem_insert,
        Std.HashSet.mem_insertMany_list, mem_members_groupsOf, beq_iff_eq, h,
        List.contains_iff_mem]
      tauto
  · simp [hadmits, h]

-- =================================================== a row of emissions

/-- A row is emitted symbol by symbol. -/
theorem emitAll_cons (groups : Groups) (claims : Std.HashSet Symbol)
    (s : Symbol) (rest : List Symbol) :
    emitAll rule groups claims (s :: rest)
      = ((emit rule groups claims s).1.toList
          ++ (emitAll rule groups (emit rule groups claims s).2 rest).1,
        (emitAll rule groups (emit rule groups claims s).2 rest).2) :=
  rfl

/-- The symbols of a row that emit an entry, each judged by what was
reached before it. -/
def emitters (rule : Eligibility) (symbols reached : List Symbol) :
    List Symbol → List Symbol
  | [] => []
  | s :: rest =>
      if rule.admits s ∧ ¬ Claimed rule symbols reached s then
        s :: emitters rule symbols (reached ++ [s]) rest
      else emitters rule symbols (reached ++ [s]) rest

/-- A row of emissions keeps the invariant. -/
theorem mem_claims_emitAll {claims : Std.HashSet Symbol}
    {reached : List Symbol}
    (h : ∀ s, s ∈ claims ↔ Claimed rule symbols reached s)
    (row : List Symbol) (s : Symbol) :
    s ∈ (emitAll rule (groupsOf rule symbols) claims row).2
      ↔ Claimed rule symbols (reached ++ row) s := by
  induction row generalizing claims reached with
  | nil => rw [List.append_nil]; exact h s
  | cons t rest ih =>
      rw [emitAll_cons, ih (mem_claims_emit h t), List.append_assoc,
        List.singleton_append]

/-- The entries of a row are those of its emitters. -/
theorem emitAll_entries {claims : Std.HashSet Symbol}
    {reached : List Symbol}
    (h : ∀ s, s ∈ claims ↔ Claimed rule symbols reached s)
    (row : List Symbol) :
    (emitAll rule (groupsOf rule symbols) claims row).1
      = (emitters rule symbols reached row).map (entryOf rule symbols) := by
  induction row generalizing claims reached with
  | nil => rfl
  | cons s rest ih =>
      rw [emitAll_cons, emitters, ih (mem_claims_emit h s), emit_entry h s]
      split <;> rfl

-- ====================================================== whole layouts

/-- What was observed, without the set. -/
theorem plan_observed (tail trace : List Symbol) :
    (plan rule symbols tail trace).observed
      = (emitters rule symbols [] trace).map (entryOf rule symbols) :=
  emitAll_entries (by simp [not_claimed_nil]) trace

/-- What remains, without the set. -/
theorem plan_remaining (tail trace : List Symbol) :
    (plan rule symbols tail trace).remaining
      = (emitters rule symbols trace tail).map (entryOf rule symbols) := by
  have hclaims : ∀ s,
      s ∈ (emitAll rule (groupsOf rule symbols) ∅ trace).2
        ↔ Claimed rule symbols ([] ++ trace) s :=
    mem_claims_emitAll (by simp [not_claimed_nil]) trace
  exact emitAll_entries hclaims tail

/-- Among symbols of the table, the first of each name that was not
reached before emits. -/
theorem emitters_of_subset {reached row : List Symbol}
    (h : ∀ s ∈ row, s ∈ symbols) :
    emitters rule symbols reached row
      = (firstNamed (row.filter rule.admits)).filter fun s =>
          s.name ∉ names (reached.filter rule.admits) := by
  induction row generalizing reached with
  | nil => rfl
  | cons s rest ih =>
      have hs : s ∈ symbols := h s (List.mem_cons_self ..)
      have hrest := @ih (reached ++ [s]) fun t ht =>
        h t (List.mem_cons_of_mem _ ht)
      rw [emitters, hrest]
      by_cases hadmits : rule.admits s
      · simp only [List.filter_append, List.filter_cons_of_pos hadmits,
          List.filter_nil, names_append, firstNamed,
          claimed_iff_of_mem hs hadmits]
        -- a name that was reached is passed over; a new one is emitted, and
        -- what follows must differ from it
        by_cases hname : s.name ∈ names (reached.filter rule.admits)
        · rw [if_neg (by simp [hname]),
            List.filter_cons_of_neg (by simp [hname]), List.filter_filter]
          refine List.filter_congr fun t _ => ?_
          by_cases ht : t.name = s.name <;> simp [hname, ht]
        · rw [if_pos ⟨hadmits, hname⟩,
            List.filter_cons_of_pos (by simp [hname]), List.filter_filter]
          congr 1
          refine List.filter_congr fun t _ => ?_
          simp
      · rw [if_neg (by simp [hadmits]), List.filter_cons_of_neg hadmits,
          List.filter_append, List.filter_cons_of_neg hadmits,
          List.filter_nil, List.append_nil]

end LinkOrder.Order
