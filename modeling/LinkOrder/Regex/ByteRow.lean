/-
Sets of characters as rows of ranges of bytes. A row stands for the
characters whose encoding has in each place a byte of the range there; the
rows of a set, in ascending order, stand for each of its characters once.
-/
import LinkOrder.Regex.CharSet

namespace LinkOrder.Regex

/-- The bytes from one to another. -/
structure ByteRange where
  low : UInt8
  high : UInt8
deriving DecidableEq, Repr, Inhabited

/-- A range for each byte of an encoding. -/
abbrev ByteRow := List ByteRange

/-- Characters whose encodings are of the same length and whose code
points have the same distance from their numbers. -/
structure Zone where
  first : Nat
  last : Nat
  shift : Nat
deriving DecidableEq, Repr

/-- All zones, which are the characters of one byte, of two, of three
below and above the code points that are no characters, and of four. -/
def zones : List Zone :=
  [⟨0, 0x7f, 0⟩, ⟨0x80, 0x7ff, 0⟩, ⟨0x800, 0xd7ff, 0⟩,
    ⟨0xd800, 0xf7ff, 0x800⟩, ⟨0xf800, lastOrdinal, 0x800⟩]

/-- The code points of a zone in a range of numbers, if there are any. -/
def Zone.clip? (zone : Zone) (low high : Nat) : Option (Nat × Nat) :=
  let low := max low zone.first
  let high := min high zone.last
  if low ≤ high then some (low + zone.shift, high + zone.shift) else none

/-- Cuts a range of code points so that the bytes in each part vary on
their own. The sizes of the blocks are given whose code points differ in
the last bytes alone, the greatest first. -/
def blocks : List Nat → Nat → Nat → List (Nat × Nat)
  | [], low, high => [(low, high)]
  | unit :: units, low, high =>
      if low / unit = high / unit then blocks units low high
      else
        let first := (low + unit - 1) / unit * unit
        let stop := (high + 1) / unit * unit
        let front := if low < first then blocks units low (first - 1) else []
        let middle := if first < stop then [(first, stop - 1)] else []
        let back := if stop ≤ high then blocks units stop high else []
        front ++ middle ++ back

/-- The row of a range in which the bytes vary on their own. -/
def ByteRow.ofBlock (low high : Nat) : ByteRow :=
  List.zipWith ByteRange.mk (String.utf8EncodeChar (Char.ofNat low))
    (String.utf8EncodeChar (Char.ofNat high))

/-- The rows of a range of code points of one zone. -/
def ByteRow.ofRange (low high : Nat) : List ByteRow :=
  let cut := if high < 0x80 then [(low, high)]
    else blocks [0x40000, 0x1000, 0x40] low high
  cut.map fun (low, high) => ofBlock low high

/-- The rows of the set. -/
def CharSet.byteRows (set : CharSet) : List ByteRow :=
  set.ranges.flatMap fun (low, high) =>
    (zones.filterMap (·.clip? low high)).flatMap fun (low, high) =>
      ByteRow.ofRange low high

end LinkOrder.Regex
