/-
Tables behind runs of insertions, some of which are refused. What is
accepted is settled by the bounds alone: the addresses of the range,
counted without wrap-around, but for the highest address there is, which a
ceiling cannot lie above (`covers_iff`). What was refused leaves no trace,
so a table is known from the bounds and the accepted entries
(`Table.Holds`), whatever else the run tried to enter
(`enterAll_ofBounds`).
-/
import LinkOrder.Proofs.LinkMap.Rows

namespace LinkOrder

-- ============================================================== bounds

namespace Bounds

variable {bounds : Bounds} {address : UInt64}

/-- An address may be entered: it is one of the range and not the highest
one there is. -/
def Admits (bounds : Bounds) (address : UInt64) : Prop :=
  bounds.start.toNat ≤ address.toNat
    ∧ address.toNat - bounds.start.toNat < bounds.size.toNat
    ∧ address.toNat ≠ UInt64.size - 1

instance (bounds : Bounds) (address : UInt64) :
    Decidable (bounds.Admits address) :=
  inferInstanceAs (Decidable (_ ∧ _))

/-- A ceiling stops short of the end of the range where that cannot be
expressed. -/
theorem toNat_ceiling (bounds : Bounds) :
    bounds.ceiling.toNat
      = min (bounds.start.toNat + bounds.size.toNat) (UInt64.size - 1) := by
  have hsize : UInt64.size = 2 ^ 64 := rfl
  rw [ceiling, hsize]
  split
  · next hroom =>
      rw [UInt64.toNat_add]
      omega
  · next hroom =>
      rw [UInt64.toNat_ofNat']
      omega

/-- To be inside the bounds, in numbers that do not wrap. -/
theorem covers_iff : bounds.covers address ↔ bounds.Admits address := by
  have hhighest : address.toNat < UInt64.size := address.toNat_lt_size
  unfold covers Admits
  rw [Bool.and_eq_true, decide_eq_true_eq, decide_eq_true_eq,
    UInt64.le_iff_toNat_le, UInt64.lt_iff_toNat_lt, toNat_ceiling]
  omega

end Bounds

namespace Table

-- ================================================================ runs

/-- The entries that were accepted, by the answers that were given. -/
def accepted (rows : List (UInt64 × Symbol)) (answers : List Bool) :
    List (UInt64 × Symbol) :=
  ((rows.zip answers).filter Prod.snd).map Prod.fst

/-- To keep what was answered with yes is to filter by the answer. -/
theorem accepted_map (rows : List (UInt64 × Symbol))
    (answer : UInt64 × Symbol → Bool) :
    accepted rows (rows.map answer) = rows.filter answer := by
  unfold accepted
  induction rows with
  | nil => rfl
  | cons row rest ih =>
      rw [List.map_cons, List.zip_cons_cons, List.filter_cons,
        List.filter_cons]
      split
      · rw [List.map_cons, ih]
      · exact ih

/-- A run answers by the bounds, which no insertion changes, and leaves
behind what entering the rows does. -/
theorem enterAll_eq (table : Table) (rows : List (UInt64 × Symbol)) :
    table.enterAll rows
      = (rows.map fun row => table.bounds.covers row.1,
        rows.foldl (fun table row => table.insert row.1 row.2) table) := by
  -- from any table: the next row is asked of a table with the same bounds
  induction rows generalizing table with
  | nil => rfl
  | cons row rest ih =>
      obtain ⟨address, symbol⟩ := row
      rw [enterAll]
      dsimp only [enter]
      rw [ih, bounds_insert]
      rfl

-- ============================================================ contents

/-- What a table holds behind a run, by the bounds and the entries that
were accepted. -/
structure Holds (bounds : Bounds) (made : List (UInt64 × Symbol))
    (table : Table) : Prop where
  /-- The bounds are those that the table was made with. -/
  unchanged : table.bounds = bounds
  /-- At an address stands the symbol of the last entry made there. -/
  stands : ∀ address symbol, table.get? address = some symbol
    ↔ Lasts made address symbol
  /-- Where no entry was made, none stands. -/
  vacant : ∀ address, table.get? address = none
    ↔ ∀ row ∈ made, row.1 ≠ address
  ascending : table.addresses.Pairwise (· < ·)
  addresses : ∀ address, address ∈ table.addresses
    ↔ ∃ symbol, (address, symbol) ∈ made
  size : table.size = table.addresses.length
  /-- Each address is listed once, with the symbol that stands there. -/
  entries : (table.toList.map fun row => (row.1, some row.2))
    = table.addresses.map fun address => (address, table.get? address)
  symbols : table.symbols.map some = table.addresses.map table.get?
  inside : ∀ address ∈ table.addresses,
    bounds.start.toNat ≤ address.toNat
      ∧ address.toNat < bounds.start.toNat + bounds.size.toNat

/-- Which the last entry at an address is, is settled by what was made. -/
theorem exists_lasts_iff {made : List (UInt64 × Symbol)}
    {address : UInt64} :
    (∃ symbol, Lasts made address symbol)
      ↔ ∃ symbol, (address, symbol) ∈ made := by
  -- from the end, as `Lasts` looks at the last entry first
  induction made using List.reverseRecOn with
  | nil => simp [Lasts]
  | append_singleton made row ih =>
      obtain ⟨place, entered⟩ := row
      simp only [lasts_concat, exists_or, exists_and_left, ih,
        List.mem_append, List.mem_singleton]
      by_cases hplace : place = address
      · subst hplace
        simp
      · simp [hplace, Ne.symm hplace]

/-- A table knows from its list what stands where. -/
theorem map_get?_addresses (table : Table) :
    (table.toList.map fun row => (row.1, some row.2))
      = table.addresses.map fun address => (address, table.get? address) := by
  rw [addresses, List.map_map]
  refine List.map_congr_left fun row hrow => ?_
  rw [Function.comp_apply, mem_toList_iff.1 hrow]

/-- The table of accepted entries holds them, by what is known of each
address. -/
theorem holds_ofRows {bounds : Bounds} {made : List (UInt64 × Symbol)}
    (h : ∀ row ∈ made, bounds.Admits row.1) :
    Holds bounds made (ofRows bounds made) := by
  have hcovers : ∀ {address symbol}, (address, symbol) ∈ made →
      bounds.covers address :=
    fun hmem => Bounds.covers_iff.2 (h _ hmem)
  have hstands : ∀ address symbol,
      (ofRows bounds made).get? address = some symbol
        ↔ Lasts made address symbol := by
    intro address symbol
    rw [get?_ofRows_eq_some_iff, and_iff_right_of_imp]
    intro hlasts
    obtain ⟨before, behind, rfl, -⟩ := hlasts
    exact hcovers (List.mem_append_right _ List.mem_cons_self)
  have haddresses : ∀ address, address ∈ (ofRows bounds made).addresses
      ↔ ∃ symbol, (address, symbol) ∈ made := by
    intro address
    simp only [mem_addresses_iff, hstands, exists_lasts_iff]
  refine
    { unchanged := bounds_ofRows bounds made
      stands := hstands
      vacant := fun address => ?_
      ascending := List.pairwise_map.2 (pairwise_toList _)
      addresses := haddresses
      size := (length_addresses _).symm
      entries := map_get?_addresses _
      symbols := ?_
      inside := fun address hmem => ?_ }
  · rw [← Option.not_isSome_iff_eq_none, Option.isSome_iff_exists]
    simp only [hstands]
    rw [exists_lasts_iff]
    constructor
    · intro hnone row hrow heq
      exact hnone ⟨row.2, heq ▸ hrow⟩
    · intro hnone hsome
      obtain ⟨symbol, hmem⟩ := hsome
      exact hnone _ hmem rfl
  · have hentries := congrArg (List.map Prod.snd)
      (map_get?_addresses (ofRows bounds made))
    rw [List.map_map, List.map_map] at hentries
    rw [Table.symbols, List.map_map]
    exact hentries
  · obtain ⟨symbol, hmade⟩ := (haddresses address).1 hmem
    obtain ⟨hlow, hhigh, -⟩ := h _ hmade
    dsimp only at hlow hhigh
    omega

-- ============================================================== results

/-- For all bounds and every run of insertions into a new table: an
insertion is accepted exactly if its address lies in the range, counted
without wrap-around, and is not the highest one there is. What the table
holds is settled by the accepted ones. This holds behind every part of a
run too, so one more insertion is answered by the same rule, and if it is
refused the table stays as it is. -/
theorem enterAll_ofBounds (bounds : Bounds)
    (rows : List (UInt64 × Symbol)) :
    let run := (ofBounds bounds).enterAll rows
    run.1 = (rows.map fun row => decide (bounds.Admits row.1))
      ∧ Holds bounds (accepted rows run.1) run.2
      ∧ ∀ address symbol,
        ((run.2.enter address symbol).1 = true ↔ bounds.Admits address)
          ∧ ((run.2.enter address symbol).1 = false →
            (run.2.enter address symbol).2 = run.2) := by
  intro run
  have hrun : run = (rows.map fun row => bounds.covers row.1,
      ofRows bounds rows) := enterAll_eq _ rows
  have hbounds : run.2.bounds = bounds := by
    rw [hrun]
    exact bounds_ofRows bounds rows
  refine ⟨?_, ?_, fun address symbol => ⟨?_, fun hrefused => ?_⟩⟩
  · rw [hrun]
    refine List.map_congr_left fun row _ => ?_
    exact Bool.eq_iff_iff.2 (Bounds.covers_iff.trans decide_eq_true_iff.symm)
  · have hmade : accepted rows run.1
        = rows.filter fun row => bounds.covers row.1 := by
      rw [hrun]
      exact accepted_map rows _
    have htable : run.2
        = ofRows bounds (rows.filter fun row => bounds.covers row.1) := by
      rw [hrun, ofRows_filter_covers]
    rw [hmade, htable]
    refine holds_ofRows fun row hrow => ?_
    exact Bounds.covers_iff.1 (List.mem_filter.1 hrow).2
  · show run.2.bounds.covers address = true ↔ _
    rw [hbounds, Bounds.covers_iff]
  · exact insert_of_not_covers hrefused symbol

/-- A range up to the highest address, the range behind that cut off. -/
example :
    let symbol : Symbol := ⟨"_f", .ofDescriptor "a.o"⟩
    ((ofBounds ⟨0xfffffffffffffff0, 0x20⟩).enterAll
      [(0xfffffffffffffffe, symbol), (0xffffffffffffffff, symbol),
        (0xffffffffffffffef, symbol)]).1 = [true, false, false] := by
  decide

end Table

end LinkOrder
