/-
What a trace contributes to an order file, position by position. A layout
decides whether a symbol of the trace emits an entry by a set that grows,
by whole groups and by the symbol itself; the same is decided here by
looking back. A symbol contributes if it may be ordered, has not been met
before, and, being one of the table's, has no name that was met before
(`Contributes`). For symbols that the table lacks the name does not matter
unless they are met again: they have no group that could be claimed.

What has been observed is the row of contributions, in the order of the
trace (`emitters_eq_contributions`). Symbols that may not be ordered and
repetitions claim nothing that was not claimed (`claimed_concat_idle`), so
a trace may be thinned of them, one or all, and the whole layout stays
(`plan_thin`, `plan_essence`).
-/
import LinkOrder.Proofs.Order.Enumeration

namespace LinkOrder.Order

variable {rule : Eligibility} {symbols reached : List Symbol}

-- ====================================================== looking back

/-- A symbol contributes an entry behind those that were met before it: it
may be ordered, is none of them, and is not both in the table and of a
name that one of them has which may be ordered. -/
def Contributes (rule : Eligibility) (symbols before : List Symbol)
    (s : Symbol) : Prop :=
  rule.admits s ∧ s ∉ before
    ∧ ¬ (s ∈ symbols ∧ ∃ t ∈ before, rule.admits t ∧ t.name = s.name)

instance (before : List Symbol) (s : Symbol) :
    Decidable (Contributes rule symbols before s) :=
  inferInstanceAs (Decidable (rule.admits s ∧ s ∉ before
    ∧ ¬ (s ∈ symbols ∧ ∃ t ∈ before, rule.admits t ∧ t.name = s.name)))

/-- The symbols of a trace that contribute, each judged by the ones in
front of its position. -/
def contributions (rule : Eligibility) (symbols row : List Symbol) :
    List Symbol :=
  (List.range row.length).filterMap fun i =>
    row[i]?.filter fun s => Contributes rule symbols (row.take i) s

/-- To contribute is to emit. -/
theorem contributes_iff {s : Symbol} :
    Contributes rule symbols reached s
      ↔ rule.admits s ∧ ¬ Claimed rule symbols reached s := by
  refine and_congr_right fun hadmits => ?_
  constructor
  · intro hback hclaimed
    obtain ⟨hnew, hname⟩ := hback
    -- claimed as itself, or along with a group
    obtain ⟨t, ht, hrule, rfl | ⟨hmem, -, heq⟩⟩ := hclaimed
    · exact hnew ht
    · exact hname ⟨hmem, t, ht, hrule, heq.symm⟩
  · intro hnot
    refine ⟨fun hmet => ?_, fun hshared => ?_⟩
    · exact hnot ⟨s, hmet, hadmits, .inl rfl⟩
    · obtain ⟨hmem, t, ht, hrule, heq⟩ := hshared
      exact hnot ⟨t, ht, hrule, .inr ⟨hmem, hadmits, heq.symm⟩⟩

/-- What a row emits, by position. -/
theorem emitters_eq_filterMap (reached row : List Symbol) :
    emitters rule symbols reached row
      = (List.range row.length).filterMap fun i =>
          row[i]?.filter fun s =>
            Contributes rule symbols (reached ++ row.take i) s := by
  induction row generalizing reached with
  | nil => rfl
  | cons s rest ih =>
      rw [emitters, ih, List.length_cons, List.range_succ_eq_map,
        List.filterMap_cons, List.filterMap_map]
      -- behind `s` positions count from one, and `s` has been reached
      have hrest : ((fun i => (s :: rest)[i]?.filter fun t =>
            Contributes rule symbols (reached ++ (s :: rest).take i) t)
          ∘ Nat.succ) = fun i => rest[i]?.filter fun t =>
            Contributes rule symbols (reached ++ [s] ++ rest.take i) t := by
        funext i
        show Option.filter (fun t => decide (Contributes rule symbols
          (reached ++ s :: rest.take i) t)) rest[i]? = _
        rw [List.append_assoc, List.singleton_append]
      rw [hrest, List.getElem?_cons_zero, List.take_zero, List.append_nil,
        Option.filter_some]
      simp only [← contributes_iff, decide_eq_true_eq]
      split <;> rfl

/-- The emitters of a trace are its contributions. -/
theorem emitters_eq_contributions (trace : List Symbol) :
    emitters rule symbols [] trace = contributions rule symbols trace := by
  rw [emitters_eq_filterMap, contributions]
  simp only [List.nil_append]

-- =================================================== nothing emits twice

/-- A row is emitted part by part. -/
theorem emitters_append (reached row more : List Symbol) :
    emitters rule symbols reached (row ++ more)
      = emitters rule symbols reached row
        ++ emitters rule symbols (reached ++ row) more := by
  induction row generalizing reached with
  | nil => rw [List.append_nil, emitters, List.nil_append, List.nil_append]
  | cons s rest ih =>
      rw [List.cons_append, emitters, emitters, ih, List.append_assoc,
        List.singleton_append]
      split <;> rfl

/-- What has been reached does not emit any more. -/
theorem not_mem_of_mem_emitters {row : List Symbol} {s : Symbol}
    (h : s ∈ emitters rule symbols reached row) : s ∉ reached := by
  -- along the row, with ever more that has been reached
  induction row generalizing reached with
  | nil => cases h
  | cons t rest ih =>
      have hrest : s ∈ emitters rule symbols (reached ++ [t]) rest →
          s ∉ reached :=
        fun hmem hreached => ih hmem (List.mem_append_left _ hreached)
      rw [emitters] at h
      split at h
      · next hemits =>
          rcases List.mem_cons.1 h with rfl | hmem
          · exact (contributes_iff.2 hemits).2.1
          · exact hrest hmem
      · exact hrest h

/-- So no symbol emits twice, the table's or not. -/
theorem nodup_emitters (reached row : List Symbol) :
    (emitters rule symbols reached row).Nodup := by
  induction row generalizing reached with
  | nil => exact List.nodup_nil
  | cons s rest ih =>
      rw [emitters]
      split
      · refine List.nodup_cons.2 ⟨fun hmem => ?_, ih _⟩
        exact not_mem_of_mem_emitters hmem (by simp)
      · exact ih _

/-- The symbols for which a layout has entries, before and behind the
separator. -/
theorem symbols_plan (tail trace : List Symbol) :
    (plan rule symbols tail trace).entries.map Entry.symbol
      = emitters rule symbols [] (trace ++ tail) := by
  rw [Plan.entries, plan_observed, plan_remaining, ← List.map_append,
    map_symbol_entryOf, emitters_append, List.nil_append]

-- ====================================================== thinned traces

/-- A symbol that may not be ordered, or that has been reached before,
claims nothing new. -/
theorem claimed_concat_idle {s : Symbol}
    (h : ¬ rule.admits s ∨ s ∈ reached) (t : Symbol) :
    Claimed rule symbols (reached ++ [s]) t
      ↔ Claimed rule symbols reached t := by
  rw [claimed_concat]
  refine or_iff_left_of_imp fun hclaims => ?_
  obtain ⟨hadmits, hcause⟩ := hclaims
  exact ⟨s, h.resolve_left (not_not_intro hadmits), hadmits, hcause⟩

/-- What a row emits depends on what has been claimed before it, and on
nothing else. -/
theorem emitters_congr {reached' : List Symbol}
    (h : ∀ t, Claimed rule symbols reached t
      ↔ Claimed rule symbols reached' t) (row : List Symbol) :
    emitters rule symbols reached row
      = emitters rule symbols reached' row := by
  induction row generalizing reached reached' with
  | nil => rfl
  | cons s rest ih =>
      have hrest := @ih (reached ++ [s]) (reached' ++ [s]) fun t => by
        rw [claimed_concat, claimed_concat, h]
      simp only [emitters, h, hrest]

/-- A row emits the same without such a symbol. -/
theorem emitters_thin {front : List Symbol} {s : Symbol}
    (h : ¬ rule.admits s ∨ s ∈ front) (back : List Symbol) :
    emitters rule symbols [] (front ++ s :: back)
      = emitters rule symbols [] (front ++ back) := by
  -- the symbol emits nothing itself, and those behind it are judged as before
  have hsilent : ¬ (rule.admits s ∧ ¬ Claimed rule symbols front s) := by
    rw [← contributes_iff]
    intro hcontributes
    obtain ⟨hadmits, hnew, -⟩ := hcontributes
    exact hnew (h.resolve_left (not_not_intro hadmits))
  rw [emitters_append, emitters_append, List.nil_append, emitters,
    if_neg hsilent, emitters_congr (claimed_concat_idle h)]

/-- So does what follows the row. -/
theorem claimed_thin {front : List Symbol} {s : Symbol}
    (h : ¬ rule.admits s ∨ s ∈ front) (back : List Symbol) (t : Symbol) :
    Claimed rule symbols (front ++ s :: back) t
      ↔ Claimed rule symbols (front ++ back) t := by
  have hsplit : ∀ row, Claimed rule symbols (row ++ back) t
      ↔ Claimed rule symbols row t ∨ Claimed rule symbols back t := by
    intro row
    unfold Claimed
    simp only [List.mem_append, or_and_right, exists_or]
  rw [← List.singleton_append, ← List.append_assoc, hsplit, hsplit,
    claimed_concat_idle h]

/-- A layout is the same without a symbol of the trace that may not be
ordered or that has been met before. -/
theorem plan_thin {front : List Symbol} {s : Symbol}
    (h : ¬ rule.admits s ∨ s ∈ front) (tail back : List Symbol) :
    plan rule symbols tail (front ++ s :: back)
      = plan rule symbols tail (front ++ back) := by
  have hobserved : (plan rule symbols tail (front ++ s :: back)).observed
      = (plan rule symbols tail (front ++ back)).observed := by
    rw [plan_observed, plan_observed, emitters_thin h]
  have hremaining : (plan rule symbols tail (front ++ s :: back)).remaining
      = (plan rule symbols tail (front ++ back)).remaining := by
    rw [plan_remaining, plan_remaining, emitters_congr (claimed_thin h back)]
  show Plan.mk (plan rule symbols tail (front ++ s :: back)).observed
    (plan rule symbols tail (front ++ s :: back)).remaining = _
  rw [hobserved, hremaining]

/-- The symbols of a trace that may be ordered, each where it is met
first. -/
def essence (rule : Eligibility) (trace : List Symbol) : List Symbol :=
  (trace.filter rule.admits).eraseDups

/-- A layout is the same without all of them. -/
theorem plan_essence (tail trace : List Symbol) :
    plan rule symbols tail (essence rule trace)
      = plan rule symbols tail trace := by
  -- the part of the trace that has been thinned already stands in front
  have hbehind : ∀ back front : List Symbol,
      plan rule symbols tail (front ++ essence rule
          (back.filter fun s => s ∉ front))
        = plan rule symbols tail (front ++ back) := by
    intro back
    induction back with
    | nil => intro front; rfl
    | cons s rest ih =>
        intro front
        -- either the symbol is thinned out here, or it moves to the front
        by_cases hidle : ¬ rule.admits s ∨ s ∈ front
        · rw [plan_thin hidle, ← ih front]
          unfold essence
          rw [List.filter_filter, List.filter_filter,
            List.filter_cons_of_neg]
          simpa [imp_iff_not_or] using hidle
        · obtain ⟨hadmits, hnew⟩ := not_or.1 hidle
          rw [not_not] at hadmits
          have hstep := ih (front ++ [s])
          rw [List.append_assoc, List.append_assoc,
            List.singleton_append, List.singleton_append] at hstep
          rw [← hstep]
          congr 2
          unfold essence
          rw [List.filter_cons_of_pos (by simpa using hnew),
            List.filter_cons_of_pos hadmits, List.eraseDups_cons]
          congr 2
          simp only [List.filter_filter]
          refine List.filter_congr fun t _ => ?_
          rw [Bool.eq_iff_iff]
          simp
          tauto
  have hall := hbehind trace []
  simpa using hall

-- =========================================================== the result

section
variable {table : Table} {entries : List (UInt64 × Symbol)}

/-- For every rule and table, every enumeration of the table, and every
trace, whether or not its symbols are the table's: what is observed are
the contributions of the trace, position by position, each written with
its own object file where several entries that may be ordered carry its
name. Symbols that may not be ordered, and repetitions, can be put into
the trace or taken out of it, and the whole layout stays; nothing depends
on a trace but those of its symbols that may be ordered, each where it is
met first. And no symbol has two entries. -/
theorem observed_planOf_eq_contributions (order : RemainingOrder)
    (h : entries.Perm table.toList) (trace : List Symbol) :
    let plan := planOf rule order entries trace
    plan.file.observed
        = (contributions rule table.symbols trace).map (fun s =>
            if 2 ≤ carriers rule table.symbols s.name then s.qualifiedName
            else s.name)
      ∧ (∀ front s back, trace = front ++ s :: back →
          ¬ rule.admits s ∨ s ∈ front →
          planOf rule order entries (front ++ back) = plan)
      ∧ (∀ other, essence rule other = essence rule trace →
          planOf rule order entries other = plan)
      ∧ (plan.entries.map Entry.symbol).Nodup := by
  intro plan
  -- the enumeration shows in the tail alone
  obtain ⟨tail, -, hplan⟩ := exists_planOf_eq_plan rule order h trace
  have hplan : plan = Order.plan rule table.symbols tail trace := hplan
  refine ⟨?_, fun front s back htrace hidle => ?_, fun other hother => ?_,
    ?_⟩
  · rw [hplan, Plan.file, plan_observed, emitters_eq_contributions,
      List.map_map]
    refine List.map_congr_left fun s _ => ?_
    show (if decide (1 < carriers rule table.symbols s.name) then
      s.qualifiedName else s.name) = _
    simp only [decide_eq_true_eq]
    rfl
  · show planOf rule order entries _ = planOf rule order entries trace
    rw [htrace]
    exact (plan_thin hidle _ back).symm
  · show planOf rule order entries other = planOf rule order entries trace
    unfold planOf
    rw [← plan_essence _ other, hother, plan_essence]
  · rw [hplan, symbols_plan]
    exact nodup_emitters _ _

end

/-- A trace in which the table of shared names has three symbols; the names
of the others are the table's all the same. -/
def mixedTrace : List Symbol :=
  [⟨"_b", .ofDescriptor "/b/z.o"⟩, ⟨"_b", .ofDescriptor "/b/w.o"⟩,
    ⟨"_b", .ofDescriptor "linker synthesized"⟩,
    ⟨"ltmp0", .ofDescriptor "/b/x.o"⟩, ⟨"_a", .ofDescriptor "/b/y.o"⟩,
    ⟨"_a", .ofDescriptor "/b/x.o"⟩, ⟨"_a", .ofDescriptor "/b/z.o"⟩,
    ⟨"_b", .ofDescriptor "/b/z.o"⟩]

/-- The table's `_b` has been named before it is met, and so has the second
`_a`; foreign symbols contribute whatever has been named, but once. -/
theorem observed_planOf_eq_contributions_mixed :
    let entries := sharedNameTable.toList.reverse
    entries.Perm sharedNameTable.toList
      ∧ (planOf ⟨["libAds"]⟩ .unspecified entries mixedTrace).file.observed
        = ["_b", "_b", "y.o:_a", "z.o:_a"]
      ∧ planOf ⟨["libAds"]⟩ .unspecified entries
          (mixedTrace.take 3 ++ mixedTrace.drop 4)
        = planOf ⟨["libAds"]⟩ .unspecified entries mixedTrace := by
  intro entries
  have hentries := List.reverse_perm sharedNameTable.toList
  obtain ⟨hobserved, hthin, -, -⟩ :=
    @observed_planOf_eq_contributions ⟨["libAds"]⟩ _ _ .unspecified
      hentries mixedTrace
  refine ⟨hentries, hobserved.trans ?_, ?_⟩
  · decide +kernel
  · exact hthin (mixedTrace.take 3) ⟨"ltmp0", .ofDescriptor "/b/x.o"⟩
      (mixedTrace.drop 4) rfl (.inl (by decide))

end LinkOrder.Order
