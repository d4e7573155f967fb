/-
Tables as lists of entries. A table is listed by ascending address, one
entry to an address (`pairwise_toList`), and what is listed is what stands
in it (`mem_toList_iff`). So the list does not depend on how the entries
are enumerated otherwise (`mergeSort_eq_toList`), and the addresses of the
list are distinct (`nodup_addresses`).
-/
import LinkOrder.LinkMap.Table

namespace LinkOrder.Table

variable {table : Table}

/-- The entries of a table are what stands at its addresses. -/
theorem mem_toList_iff {row : UInt64 × Symbol} :
    row ∈ table.toList ↔ table.get? row.1 = some row.2 :=
  Std.ExtTreeMap.mem_toList_iff_getElem?_eq_some

/-- They are listed by ascending address, no two at one. -/
theorem pairwise_toList (table : Table) :
    table.toList.Pairwise fun row later => row.1 < later.1 := by
  refine List.Pairwise.imp (fun hlt => ?_)
    Std.ExtTreeMap.ordered_keys_toList
  exact compareOfLessAndEq_eq_lt.1 hlt

/-- Sorted by address, every enumeration of a table is that list. -/
theorem mergeSort_eq_toList {entries : List (UInt64 × Symbol)}
    (h : entries.Perm table.toList) :
    entries.mergeSort (fun row later => row.1 ≤ later.1) = table.toList := by
  have hperm : (entries.mergeSort fun row later => row.1 ≤ later.1).Perm
      table.toList := (List.mergeSort_perm _ _).trans h
  have hsorted : (entries.mergeSort fun row later =>
      row.1 ≤ later.1).Pairwise fun row later => row.1 ≤ later.1 := by
    have hpairs := @List.pairwise_mergeSort _
      (fun row later : UInt64 × Symbol => decide (row.1 ≤ later.1))
      (fun a b c hab hbc => by
        simp only [decide_eq_true_eq] at hab hbc ⊢
        exact UInt64.le_trans hab hbc)
      (fun a b => by simpa using UInt64.le_total a.1 b.1) entries
    simpa using hpairs
  refine List.Perm.eq_of_pairwise (fun row later hrow hlater hle hge => ?_)
    hsorted (table.pairwise_toList.imp UInt64.le_of_lt) hperm
  -- two entries at one address are one entry
  have haddress : row.1 = later.1 := UInt64.le_antisymm hle hge
  have hget := mem_toList_iff.1 (hperm.mem_iff.1 hrow)
  rw [haddress, mem_toList_iff.1 hlater] at hget
  exact Prod.ext haddress (Option.some_inj.1 hget).symm

/-- The addresses of a table are those at which a symbol stands. -/
theorem mem_addresses_iff {address : UInt64} :
    address ∈ table.addresses
      ↔ ∃ symbol, table.get? address = some symbol := by
  simp only [addresses, List.mem_map, Prod.exists, mem_toList_iff]
  constructor
  · intro hrow
    obtain ⟨_, symbol, hget, rfl⟩ := hrow
    exact ⟨symbol, hget⟩
  · intro hget
    obtain ⟨symbol, hget⟩ := hget
    exact ⟨address, symbol, hget, rfl⟩

/-- The entries are kept in order, so no address comes twice. -/
theorem nodup_addresses (table : Table) : table.addresses.Nodup := by
  refine (List.pairwise_map.2 table.pairwise_toList).imp ?_
  exact fun hlt => UInt64.ne_of_lt hlt

/-- There are as many entries as addresses. -/
theorem length_addresses (table : Table) :
    table.addresses.length = table.size := by
  rw [addresses, List.length_map]
  exact Std.ExtTreeMap.length_toList

end LinkOrder.Table
