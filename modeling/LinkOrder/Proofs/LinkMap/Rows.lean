/-
Tables as what a row of entries leaves behind: entries are made one after
the other, those outside the bounds are refused, and at an address the
last one stands (`get?_ofRows_eq_some_iff`). Entries outside the bounds
may be left out from the start (`ofRows_filter_covers`). As many are left
as there are addresses among those inside (`size_ofRows`), so none is lost
exactly if no two of them were made at one address.
-/
import LinkOrder.Proofs.LinkMap.Entries
import Mathlib.Data.List.Dedup
import Mathlib.Data.List.Induction

namespace LinkOrder.Table

/-- The table that holds entries made in order. -/
def ofRows (bounds : Bounds) (rows : List (UInt64 × Symbol)) : Table :=
  rows.foldl (fun table row => table.insert row.1 row.2) (ofBounds bounds)

@[simp] theorem ofRows_nil (bounds : Bounds) :
    ofRows bounds [] = ofBounds bounds := rfl

/-- The last entry is made in the table of those before it; so the proofs
here take rows from their end. -/
theorem ofRows_concat (bounds : Bounds) (rows : List (UInt64 × Symbol))
    (row : UInt64 × Symbol) :
    ofRows bounds (rows ++ [row])
      = (ofRows bounds rows).insert row.1 row.2 := by
  unfold ofRows
  rw [List.foldl_append]
  rfl

@[simp] theorem bounds_ofRows (bounds : Bounds)
    (rows : List (UInt64 × Symbol)) :
    (ofRows bounds rows).bounds = bounds := by
  induction rows using List.reverseRecOn with
  | nil => rfl
  | append_singleton rows row ih =>
      rw [ofRows_concat, bounds_insert, ih]

/-- The last entry made at the address is one of the symbol. -/
def Lasts (rows : List (UInt64 × Symbol)) (address : UInt64)
    (symbol : Symbol) : Prop :=
  ∃ before behind, rows = before ++ (address, symbol) :: behind
    ∧ ∀ row ∈ behind, row.1 ≠ address

/-- Behind one more entry, either that is the last at the address, or it is
one at another address and nothing has changed. -/
theorem lasts_concat {rows : List (UInt64 × Symbol)}
    {row : UInt64 × Symbol} {address : UInt64} {symbol : Symbol} :
    Lasts (rows ++ [row]) address symbol
      ↔ row = (address, symbol)
        ∨ row.1 ≠ address ∧ Lasts rows address symbol := by
  constructor
  · intro hlasts
    obtain ⟨before, behind, heq, hbehind⟩ := hlasts
    rcases List.eq_nil_or_concat behind with rfl | ⟨front, last, rfl⟩
    · exact .inl (List.singleton_inj.1 (List.append_inj' heq rfl).2)
    · have hends : rows ++ [row]
          = (before ++ (address, symbol) :: front) ++ [last] := by
        simpa using heq
      obtain ⟨hfront, hlast⟩ := List.append_inj' hends rfl
      obtain rfl := List.singleton_inj.1 hlast
      refine .inr ⟨hbehind row (by simp), before, front, hfront, ?_⟩
      exact fun r hr => hbehind r (by simp [hr])
  · intro hcases
    rcases hcases with rfl | ⟨hrow, before, behind, rfl, hbehind⟩
    · exact ⟨rows, [], rfl, by simp⟩
    · refine ⟨before, behind ++ [row], by simp, fun r hr => ?_⟩
      rcases List.mem_append.1 hr with hr | hr
      · exact hbehind r hr
      · rwa [List.mem_singleton.1 hr]

/-- Entries that lines make: the last one at the address is that of a
line behind which no line makes one there. -/
theorem lasts_filterMap {α : Type} {make : α → Option (UInt64 × Symbol)}
    {lines : List α} {address : UInt64} {symbol : Symbol} :
    Lasts (lines.filterMap make) address symbol
      ↔ ∃ before line behind, lines = before ++ line :: behind
        ∧ make line = some (address, symbol)
        ∧ ∀ later ∈ behind, ∀ other,
          make later ≠ some (address, other) := by
  constructor
  · intro hlasts
    obtain ⟨before, behind, heq, hbehind⟩ := hlasts
    obtain ⟨front, back, rfl, -, hback⟩ := List.filterMap_eq_append_iff.1 heq
    obtain ⟨skipped, line, rest, rfl, -, hline, hrest⟩ :=
      List.filterMap_eq_cons_iff.1 hback
    -- lines that make no row may stand in between
    refine ⟨front ++ skipped, line, rest, by simp, hline, ?_⟩
    intro later hlater other hmake
    rw [← hrest] at hbehind
    exact hbehind _ (List.mem_filterMap.2 ⟨later, hlater, hmake⟩) rfl
  · intro hmakes
    obtain ⟨before, line, behind, rfl, hline, hbehind⟩ := hmakes
    refine ⟨before.filterMap make, behind.filterMap make, ?_, ?_⟩
    · rw [List.filterMap_append, List.filterMap_cons_some hline]
    · intro row hrow heq
      obtain ⟨later, hlater, hmake⟩ := List.mem_filterMap.1 hrow
      refine hbehind later hlater row.2 ?_
      rw [hmake, ← heq]

/-- At an address inside the bounds stands the symbol of the last entry
made there, and outside them none. -/
theorem get?_ofRows_eq_some_iff {bounds : Bounds}
    {rows : List (UInt64 × Symbol)} {address : UInt64} {symbol : Symbol} :
    (ofRows bounds rows).get? address = some symbol
      ↔ bounds.covers address ∧ Lasts rows address symbol := by
  induction rows using List.reverseRecOn with
  | nil => simp [Lasts]
  | append_singleton rows row ih =>
      obtain ⟨place, entered⟩ := row
      rw [ofRows_concat, get?_insert, bounds_ofRows, lasts_concat]
      by_cases hplace : place = address
      · subst hplace
        by_cases hcovers : bounds.covers place
        · rw [if_pos ⟨rfl, hcovers⟩]
          simp [hcovers]
        · rw [if_neg fun hand => hcovers hand.2, ih]
          simp [hcovers]
      · rw [if_neg fun hand => hplace hand.1, ih]
        simp [hplace]

/-- Entries outside the bounds leave no trace. -/
theorem ofRows_filter_covers (bounds : Bounds)
    (rows : List (UInt64 × Symbol)) :
    ofRows bounds (rows.filter fun row => bounds.covers row.1)
      = ofRows bounds rows := by
  induction rows using List.reverseRecOn with
  | nil => rfl
  | append_singleton rows row ih =>
      rw [List.filter_append, ofRows_concat]
      by_cases hcovers : bounds.covers row.1
      · have hkeep : [row].filter (fun r => bounds.covers r.1) = [row] := by
          simp [hcovers]
        rw [hkeep, ofRows_concat, ih]
      · have hdrop : [row].filter (fun r => bounds.covers r.1) = [] := by
          simp [hcovers]
        rw [hdrop, List.append_nil, ih, insert_of_not_covers]
        simpa using hcovers

/-- Whatever was entered inside the bounds keeps its address occupied. -/
theorem exists_get?_ofRows {bounds : Bounds}
    {rows : List (UInt64 × Symbol)} {row : UInt64 × Symbol}
    (hmem : row ∈ rows) (hcovers : bounds.covers row.1) :
    ∃ symbol, (ofRows bounds rows).get? row.1 = some symbol := by
  induction rows using List.reverseRecOn with
  | nil => cases hmem
  | append_singleton rows last ih =>
      rw [ofRows_concat, get?_insert, bounds_ofRows]
      by_cases hlast : last.1 = row.1 ∧ bounds.covers last.1
      · exact ⟨last.2, if_pos hlast⟩
      · rw [if_neg hlast]
        refine ih ?_
        rcases List.mem_append.1 hmem with hfront | hend
        · exact hfront
        · rw [List.mem_singleton.1 hend] at hcovers
          rw [List.mem_singleton.1 hend] at hlast
          exact absurd ⟨rfl, hcovers⟩ hlast

-- =============================================================== sizes

/-- A table has the addresses that were entered inside its bounds. -/
theorem mem_addresses_ofRows {bounds : Bounds}
    {rows : List (UInt64 × Symbol)} {address : UInt64} :
    address ∈ (ofRows bounds rows).addresses
      ↔ ∃ symbol, (address, symbol) ∈ rows ∧ bounds.covers address := by
  rw [mem_addresses_iff]
  constructor
  · intro hstands
    obtain ⟨symbol, hget⟩ := hstands
    obtain ⟨hcovers, before, behind, rfl, -⟩ :=
      get?_ofRows_eq_some_iff.1 hget
    exact ⟨symbol, by simp, hcovers⟩
  · intro hentered
    obtain ⟨symbol, hmem, hcovers⟩ := hentered
    exact exists_get?_ofRows hmem hcovers

/-- It has as many entries as there are such addresses. -/
theorem size_ofRows {bounds : Bounds} {rows : List (UInt64 × Symbol)}
    (h : ∀ row ∈ rows, bounds.covers row.1) :
    (ofRows bounds rows).size = (rows.map Prod.fst).dedup.length := by
  rw [← length_addresses]
  refine List.Perm.length_eq ?_
  rw [List.perm_ext_iff_of_nodup (nodup_addresses _) (List.nodup_dedup _)]
  intro address
  rw [mem_addresses_ofRows, List.mem_dedup, List.mem_map]
  constructor
  · intro hentered
    obtain ⟨symbol, hmem, -⟩ := hentered
    exact ⟨_, hmem, rfl⟩
  · intro haddress
    obtain ⟨row, hmem, rfl⟩ := haddress
    exact ⟨row.2, hmem, h row hmem⟩

/-- An entry may replace another, so the table can be smaller than the row
of its entries, but not greater. -/
theorem size_ofRows_le {bounds : Bounds} {rows : List (UInt64 × Symbol)}
    (h : ∀ row ∈ rows, bounds.covers row.1) :
    (ofRows bounds rows).size ≤ rows.length := by
  have hle := (List.dedup_sublist (rows.map Prod.fst)).length_le
  rw [List.length_map] at hle
  rw [size_ofRows h]
  exact hle

/-- No entry is lost exactly if no two were made at one address. -/
theorem size_ofRows_eq_iff {bounds : Bounds}
    {rows : List (UInt64 × Symbol)}
    (h : ∀ row ∈ rows, bounds.covers row.1) :
    (ofRows bounds rows).size = rows.length
      ↔ (rows.map Prod.fst).Nodup := by
  have hlength : rows.length = (rows.map Prod.fst).length := by
    rw [List.length_map]
  rw [size_ofRows h, hlength]
  constructor
  · intro heq
    rw [← List.dedup_eq_self]
    exact (List.dedup_sublist _).eq_of_length heq
  · intro hnodup
    rw [List.dedup_eq_self.2 hnodup]

end LinkOrder.Table
