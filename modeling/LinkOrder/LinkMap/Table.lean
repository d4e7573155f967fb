/-
The symbol table of a link map: which symbol stands at which address of
the text section. A table knows the bounds of its section and holds
entries inside them only; at an address the last entry stands. Tables are
compared by their contents, whatever order the entries came in.
-/
import LinkOrder.Symbol
import Std.Data.ExtTreeMap

namespace LinkOrder

/-- A range of addresses: where it starts and how many bytes it has. -/
structure Bounds where
  start : UInt64
  size : UInt64
deriving DecidableEq, Repr, Inhabited

namespace Bounds

/-- The address after the range, or the highest address if the range goes
up to it or beyond. -/
def ceiling (bounds : Bounds) : UInt64 :=
  if bounds.start.toNat + bounds.size.toNat < UInt64.size then
    bounds.start + bounds.size
  else UInt64.ofNat (UInt64.size - 1)

/-- Whether the address lies in the range. The highest address lies in no
range, since a ceiling cannot lie above it. -/
def covers (bounds : Bounds) (address : UInt64) : Bool :=
  bounds.start ≤ address && address < bounds.ceiling

/-- The range without addresses. -/
def empty : Bounds := ⟨0, 0⟩

end Bounds

/-- Symbols by address, all inside the bounds of one section. -/
structure Table where
  bounds : Bounds
  entries : Std.ExtTreeMap UInt64 Symbol
  covered : ∀ address ∈ entries, bounds.covers address

namespace Table

/-- The table of a section before any symbol is entered. -/
def ofBounds (bounds : Bounds) : Table where
  bounds := bounds
  entries := ∅
  covered := fun _ h => absurd h Std.ExtTreeMap.not_mem_empty

instance : Inhabited Table := ⟨ofBounds Bounds.empty⟩

/-- The symbol at an address. -/
def get? (table : Table) (address : UInt64) : Option Symbol :=
  table.entries[address]?

/-- The table with the symbol at the address, in place of what stood
there. Outside the bounds nothing changes. -/
def insert (table : Table) (address : UInt64) (symbol : Symbol) : Table :=
  if h : table.bounds.covers address then
    { bounds := table.bounds
      entries := table.entries.insert address symbol
      covered := fun a ha => by
        rcases Std.ExtTreeMap.mem_insert.1 ha with heq | hmem
        · rw [Std.LawfulEqCmp.compare_eq_iff_eq.1 heq] at h
          exact h
        · exact table.covered a hmem }
  else table

/-- Enters the symbol at the address, and answers whether the address was
accepted. -/
def enter (table : Table) (address : UInt64) (symbol : Symbol) :
    Bool × Table :=
  (table.bounds.covers address, table.insert address symbol)

/-- Enters symbols one after the other, and gives all answers. -/
def enterAll (table : Table) :
    List (UInt64 × Symbol) → List Bool × Table
  | [] => ([], table)
  | (address, symbol) :: rest =>
      let (answer, next) := table.enter address symbol
      let (answers, last) := next.enterAll rest
      (answer :: answers, last)

/-- The entries by ascending address. -/
def toList (table : Table) : List (UInt64 × Symbol) := table.entries.toList

/-- The addresses of the entries, ascending. -/
def addresses (table : Table) : List UInt64 := table.toList.map Prod.fst

/-- The symbols of the entries, by ascending address. A symbol that stands
at several addresses is there as often. -/
def symbols (table : Table) : List Symbol := table.toList.map Prod.snd

/-- The number of entries. -/
def size (table : Table) : Nat := table.entries.size

-- ================================================================ laws

/-- Nothing stands in a table to begin with. -/
@[simp] theorem get?_ofBounds (bounds : Bounds) (address : UInt64) :
    (ofBounds bounds).get? address = none := by
  simp [ofBounds, get?]

/-- The bounds of a table are settled once and for all. -/
@[simp] theorem bounds_insert (table : Table) (address : UInt64)
    (symbol : Symbol) :
    (table.insert address symbol).bounds = table.bounds := by
  unfold insert
  split <;> rfl

/-- Inserting changes the entry at one address, and only inside the
bounds. -/
theorem get?_insert (table : Table) (address other : UInt64)
    (symbol : Symbol) :
    (table.insert address symbol).get? other
      = if address = other ∧ table.bounds.covers address then some symbol
        else table.get? other := by
  unfold insert get?
  by_cases h : table.bounds.covers address
  · simp only [h, dite_true, and_true, Std.ExtTreeMap.getElem?_insert,
      Std.LawfulEqCmp.compare_eq_iff_eq]
  · simp [h]

/-- The symbols of a table are those that stand at some address. -/
theorem mem_symbols_iff {table : Table} {symbol : Symbol} :
    symbol ∈ table.symbols ↔ ∃ address, table.get? address = some symbol := by
  simp [symbols, toList, get?]

/-- What lies outside the bounds is refused without a trace. -/
theorem insert_of_not_covers {table : Table} {address : UInt64}
    (h : table.bounds.covers address = false) (symbol : Symbol) :
    table.insert address symbol = table := by
  simp [insert, h]

end Table

end LinkOrder
