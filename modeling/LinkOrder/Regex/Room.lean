/-
The room of machines that read bytes. A machine is built state by state;
each state takes the same room, and what a state with several ways out
keeps of them takes room beside. Building ends at once when there is no
more room, so that what would be far too large is not built at all.
-/

namespace LinkOrder.Regex

/-- The room that a machine may take, in bytes. -/
def sizeLimit : Nat := 10485760

/-- The room that has been taken. -/
structure Room where
  /-- How many states there are, which is also the number of the next. -/
  states : Nat := 0
  /-- How many bytes are taken beside the states. -/
  beside : Nat := 0
deriving DecidableEq, Repr, Inhabited

/-- The room in bytes. -/
def Room.bytes (room : Room) : Nat := room.states * 32 + room.beside

/-- The building of a part of a machine, for which there may be no room. -/
abbrev Building := StateT Room Option

namespace Building

/-- Takes room for some states, and for some bytes beside. -/
def take (states beside : Nat) : Building Unit := fun room =>
  let room : Room := ⟨room.states + states, room.beside + beside⟩
  if room.bytes ≤ sizeLimit then some ((), room) else none

/-- A new state, by its number. -/
def newState (beside : Nat) : Building Nat := do
  let number := (← get).states
  take 1 beside
  return number

/-- Takes room for some ways out of a state that reads nothing. -/
def ways (count : Nat) : Building Unit := take 0 (4 * count)

/-- The room of some ways out of a state that reads a byte. -/
def readingWays (count : Nat) : Nat := 8 * count

end Building

end LinkOrder.Regex
