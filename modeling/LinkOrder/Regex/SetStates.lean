/-
The states that read one character of a set. Characters of several bytes
are read byte by byte, and the states for what they have in common are
built once. What was built is remembered in a table with a fixed number of
slots: a state whose slot is taken drives out the one that was there, and
is built again when it is asked for later.
-/
import LinkOrder.Regex.ByteRow
import LinkOrder.Regex.Room
import Std.Data.HashMap

namespace LinkOrder.Regex

/-- A way out of a state: what is read, and where it leads. -/
structure Way where
  range : ByteRange
  target : Nat
deriving DecidableEq, Repr, Inhabited

-- ============================================================== tables

/-- The states that are remembered, each with what it was built for. -/
abbrev Slots (κ : Type) := Std.HashMap UInt64 (κ × Nat)

/-- Building with what is remembered. -/
abbrev Remembering (κ : Type) := StateT (Slots κ) Building

/-- The state for a thing with a slot, which is built if it is not
remembered. -/
def remembered {κ : Type} [DecidableEq κ] (slot : UInt64) (thing : κ)
    (build : Building Nat) : Remembering κ Nat := do
  match ((← get)[slot]?).filter (·.1 = thing) with
  | some (_, state) => return state
  | none =>
      let state ← build
      modify (·.insert slot (thing, state))
      return state

/-- A number into which another is mixed, as slots are told by. -/
def mix (code : UInt64) (n : Nat) : UInt64 :=
  (code ^^^ UInt64.ofNat n) * 0x100000001b3

/-- What numbers are mixed into at first. -/
def mixStart : UInt64 := 0xcbf29ce484222325

/-- The slot of a state with some ways out. -/
def slotOfWays (ways : List Way) : UInt64 :=
  ways.foldl
      (fun code way =>
        mix (mix (mix code way.range.low.toNat) way.range.high.toNat)
          way.target)
      mixStart
    % 10000

/-- The slot of a state with one way out. -/
def slotOfWay (way : Way) : UInt64 :=
  mix (mix (mix mixStart way.target) way.range.low.toNat)
      way.range.high.toNat
    % 1000

-- ============================================================= forward

/-- A state that is not yet complete: its ways that are, the last of them
first, and what is read on the one to the next such state. -/
structure OpenState where
  ways : List Way
  range : ByteRange
deriving Repr, Inhabited

/-- The state of which all ways are known. -/
def completed (ways : List Way) : Remembering (List Way) Nat :=
  remembered (slotOfWays ways) ways
    (Building.newState (Building.readingWays ways.length))

/-- Completes states of which each leads to the next, and the last one to
a target. -/
def complete (target : Nat) :
    List OpenState → Remembering (List Way) Nat
  | [] => return target
  | state :: states => do
      let next ← complete target states
      completed (⟨state.range, next⟩ :: state.ways).reverse

/-- Goes on with the next row of a set. The states for what it has in
common with the row before stay open. -/
def extend (target : Nat) :
    List OpenState → ByteRow → Remembering (List Way) (List OpenState)
  | state :: states, range :: row =>
      if state.range = range then
        return state :: (← extend target states row)
      else do
        let next ← complete target states
        return ⟨⟨state.range, next⟩ :: state.ways, range⟩
          :: row.map fun range => ⟨[], range⟩
  | _, row => return row.map fun range => ⟨[], range⟩

/-- Room for the rows of a set, read from the first byte on. -/
def buildRows (rows : List ByteRow) : Building Unit := do
  let target ← Building.newState 0
  let states : Remembering (List Way) Nat := do
    complete target (← rows.foldlM (extend target) [])
  let _ ← states.run ∅

-- ============================================================ backward

/-- The state from which a row is read backwards to a target. -/
def buildRowBack (target : Nat) (row : ByteRow) : Remembering Way Nat :=
  row.foldlM
    (fun target range =>
      let way : Way := ⟨range, target⟩
      remembered (slotOfWay way) way (Building.newState 0))
    target

/-- Room for the rows of a set, read from the last byte back. A state in
front leads to each row. -/
def buildRowsBack (rows : List ByteRow) : Building Unit := do
  Building.take 1 0
  let target ← Building.newState 0
  let states : Remembering Way Unit :=
    rows.forM fun row => do
      let _ ← buildRowBack target row
      Building.ways 1
  let _ ← states.run ∅

end LinkOrder.Regex
