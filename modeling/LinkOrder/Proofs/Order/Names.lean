/-
Rows of symbols, by name. An order file speaks of names, while what the
layout of it keeps are symbols, name and object file; this file carries
the bridge between the two: of a row of symbols the first of each name,
and how many of them carry a name.

Main statements: the first of each name have the names of the row, each
once (`mem_names_firstNamed`, `nodup_names_firstNamed`); of two rows one
behind the other they are those of the first row and, of the second, those
whose names the first lacks (`firstNamed_append`).
-/
import LinkOrder.Order.Plan
import Mathlib.Data.Finset.Card

namespace LinkOrder.Order

-- ============================================================ names

/-- The names of a row of symbols. -/
def names (symbols : List Symbol) : List String := symbols.map Symbol.name

@[simp] theorem names_nil : names [] = [] := rfl

@[simp] theorem names_cons (s : Symbol) (l : List Symbol) :
    names (s :: l) = s.name :: names l := rfl

@[simp] theorem names_append (l k : List Symbol) :
    names (l ++ k) = names l ++ names k :=
  List.map_append

theorem mem_names {name : String} {l : List Symbol} :
    name ∈ names l ↔ ∃ s ∈ l, s.name = name :=
  List.mem_map

theorem name_mem_names {s : Symbol} {l : List Symbol} (h : s ∈ l) :
    s.name ∈ names l :=
  List.mem_map_of_mem h

-- ============================================== the first of each name

/-- The first symbol of each name, in the order of the row. -/
def firstNamed : List Symbol → List Symbol
  | [] => []
  | s :: rest => s :: (firstNamed rest).filter fun t => t.name ≠ s.name

/-- Symbols are dropped, and the others stay in order. -/
theorem firstNamed_sublist (l : List Symbol) :
    (firstNamed l).Sublist l := by
  induction l with
  | nil => exact List.Sublist.refl _
  | cons s rest ih =>
      exact List.Sublist.cons_cons s (List.filter_sublist.trans ih)

/-- No name is lost. -/
theorem mem_names_firstNamed {name : String} {l : List Symbol} :
    name ∈ names (firstNamed l) ↔ name ∈ names l := by
  induction l with
  | nil => rfl
  | cons s rest ih =>
      rw [firstNamed, names_cons, names_cons, List.mem_cons, List.mem_cons]
      -- the first of its name stays, and drops only namesakes of its own
      by_cases hs : name = s.name
      · simp [hs]
      · refine or_congr_right ?_
        rw [← ih, mem_names, mem_names]
        constructor
        · intro hmem
          obtain ⟨t, ht, rfl⟩ := hmem
          exact ⟨t, List.mem_of_mem_filter ht, rfl⟩
        · intro hmem
          obtain ⟨t, ht, rfl⟩ := hmem
          exact ⟨t, List.mem_filter.2 ⟨ht, decide_eq_true hs⟩, rfl⟩

/-- No name is kept twice. -/
theorem nodup_names_firstNamed (l : List Symbol) :
    (names (firstNamed l)).Nodup := by
  induction l with
  | nil => exact List.nodup_nil
  | cons s rest ih =>
      rw [firstNamed, names_cons, List.nodup_cons]
      constructor
      · -- a namesake behind the head would have been dropped
        intro hmem
        obtain ⟨t, ht, hname⟩ := mem_names.1 hmem
        exact of_decide_eq_true (List.mem_filter.1 ht).2 hname
      · exact ih.sublist (List.filter_sublist.map Symbol.name)

/-- Of two rows one behind the other the second adds the names that the
first lacks. -/
theorem firstNamed_append (l k : List Symbol) :
    firstNamed (l ++ k)
      = firstNamed l ++ (firstNamed k).filter fun t => t.name ∉ names l := by
  -- on the first row: what its head drops is dropped from both rows
  induction l with
  | nil => simp [firstNamed]
  | cons s rest ih =>
      rw [List.cons_append, firstNamed, firstNamed, ih, List.filter_append,
        List.filter_filter, List.cons_append]
      congr 2
      refine List.filter_congr fun t _ => ?_
      simp

/-- The names that a row adds to those of another. -/
theorem mem_names_filter_firstNamed {row before : List Symbol}
    {name : String} :
    name ∈ names ((firstNamed row).filter fun s => s.name ∉ names before)
      ↔ name ∈ names row ∧ name ∉ names before := by
  rw [← @mem_names_firstNamed name row, mem_names, mem_names]
  constructor
  · intro hmem
    obtain ⟨s, hs, rfl⟩ := hmem
    obtain ⟨hmem, hnot⟩ := List.mem_filter.1 hs
    exact ⟨⟨s, hmem, rfl⟩, of_decide_eq_true hnot⟩
  · intro hmem
    obtain ⟨⟨s, hs, rfl⟩, hnot⟩ := hmem
    exact ⟨s, List.mem_filter.2 ⟨hs, decide_eq_true hnot⟩, rfl⟩

-- ========================================================= carriers

/-- How many symbols of a row carry a name and may be ordered. A symbol
that stands in the row several times counts as often. -/
def carriers (rule : Eligibility) (symbols : List Symbol) (name : String) :
    Nat :=
  symbols.countP fun s => rule.admits s && s.name = name

/-- How often a name is carried does not depend on the order of the
row. -/
theorem carriers_perm {rule : Eligibility} {l k : List Symbol}
    (h : l.Perm k) (name : String) :
    carriers rule l name = carriers rule k name :=
  h.countP_eq _

/-- The names of the symbols that may be ordered. -/
def eligibleNames (rule : Eligibility) (symbols : List Symbol) :
    Finset String :=
  (names (symbols.filter rule.admits)).toFinset

/-- As a set they can be counted, which is what `Finset` is for here. -/
theorem mem_eligibleNames {rule : Eligibility} {symbols : List Symbol}
    {name : String} :
    name ∈ eligibleNames rule symbols
      ↔ ∃ s ∈ symbols, rule.admits s ∧ s.name = name := by
  simp [eligibleNames, mem_names, and_assoc]

end LinkOrder.Order
