/-
Sets of characters. Characters are numbered in their order without gaps;
a set is the ascending row of the numbers at which membership changes, so
equal sets have equal rows. That rows stay ascending is part of what a set
is; the combination of two sets goes through both rows at once, and its
row is ascending because every change in it is one of theirs.
-/

namespace LinkOrder.Regex

-- ============================================================= numbers

/-- The number of a character. The code points that are no characters are
left out. -/
def ordinal (c : Char) : Nat :=
  if c.toNat < 0xe000 then c.toNat else c.toNat - 0x800

/-- The number of the last character. -/
def lastOrdinal : Nat := 0x10f7ff

/-- How many bytes the character with a number is encoded in. -/
def encodedLength (ordinal : Nat) : Nat :=
  if ordinal < 0x80 then 1
  else if ordinal < 0x800 then 2
  else if ordinal < 0xf800 then 3
  else 4

/-- The character with a number. -/
def ofOrdinal (ordinal : Nat) : Char :=
  Char.ofNat (if ordinal < 0xd800 then ordinal else ordinal + 0x800)

-- ============================================================= changes

/-- Whether a number is in a set, of which the changes are given that are
still to come. -/
def holdsAt (n : Nat) : (inside : Bool) → List Nat → Bool
  | inside, [] => inside
  | inside, change :: changes =>
      if n < change then inside else holdsAt n (!inside) changes

/-- A change in front of others, if there is one. -/
def mark (n : Nat) (before after : Bool) (changes : List Nat) :
    List Nat :=
  if before = after then changes else n :: changes

/-- The changes of a combination of two sets, of which the changes are
given that are still to come. -/
def merge (op : Bool → Bool → Bool) (left right : Bool) :
    List Nat → List Nat → List Nat
  | [], [] => []
  | a :: as, [] =>
      mark a (op left right) (op (!left) right) (merge op (!left) right as [])
  | [], b :: bs =>
      mark b (op left right) (op left (!right)) (merge op left (!right) [] bs)
  | a :: as, b :: bs =>
      if a < b then
        mark a (op left right) (op (!left) right)
          (merge op (!left) right as (b :: bs))
      else if b < a then
        mark b (op left right) (op left (!right))
          (merge op left (!right) (a :: as) bs)
      else
        mark a (op left right) (op (!left) (!right))
          (merge op (!left) (!right) as bs)
termination_by as bs => as.length + bs.length

/-- A mark adds one change at most. -/
theorem mem_of_mem_mark {n m : Nat} {before after : Bool}
    {changes : List Nat} (h : m ∈ mark n before after changes) :
    m = n ∨ m ∈ changes := by
  unfold mark at h
  split at h
  · exact .inr h
  · exact List.mem_cons.1 h

/-- A combination changes only where one of the sides does. -/
theorem mem_of_mem_merge {op : Bool → Bool → Bool} {left right : Bool}
    {as bs : List Nat} {n : Nat} (h : n ∈ merge op left right as bs) :
    n ∈ as ∨ n ∈ bs := by
  fun_induction merge op left right as bs <;>
    first
    | exact .inl h
    | (rcases mem_of_mem_mark h with h | h <;> grind)

/-- The numbers are ascending. -/
abbrev Ascending (changes : List Nat) : Prop := changes.Pairwise (· < ·)

/-- A change may be put in front of greater ones. -/
theorem ascending_mark {n : Nat} {before after : Bool}
    {changes : List Nat} (ascending : Ascending changes)
    (above : ∀ m ∈ changes, n < m) :
    Ascending (mark n before after changes) := by
  unfold mark
  split
  · exact ascending
  · exact List.pairwise_cons.2 ⟨above, ascending⟩

/-- The combination of two rows is a row again: its changes are theirs, and
they are come upon in their order. -/
theorem ascending_merge {op : Bool → Bool → Bool} {left right : Bool}
    {as bs : List Nat} (ha : Ascending as) (hb : Ascending bs) :
    Ascending (merge op left right as bs) := by
  fun_induction merge op left right as bs <;>
    first
    | exact ha
    | (refine ascending_mark (by grind) fun m h => ?_
       have := mem_of_mem_merge h
       grind [List.pairwise_cons])

/-- The first and the last number of each range in a set, of which the
changes are given that are still to come. -/
def rangesOf : List Nat → List (Nat × Nat)
  | [] => []
  | [low] => [(low, lastOrdinal)]
  | low :: stop :: changes => (low, stop - 1) :: rangesOf changes

-- ================================================================ sets

/-- A set of characters. -/
structure CharSet where
  /-- The numbers at which membership changes; below the first, nothing is
  in the set. -/
  changes : List Nat
  ascending : Ascending changes
deriving DecidableEq, Repr

namespace CharSet

/-- The set of no character. -/
def empty : CharSet := ⟨[], .nil⟩

/-- The set of all characters from one on. -/
def onwards (low : Char) : CharSet := ⟨[ordinal low], by simp⟩

/-- The characters from one to another. -/
def range (low high : Char) : CharSet :=
  if ordinal high = lastOrdinal then onwards low
  else if h : ordinal low < ordinal high + 1 then
    ⟨[ordinal low, ordinal high + 1], by simpa using h⟩
  else empty

/-- The set of all characters. -/
def all : CharSet := onwards '\x00'

/-- The set of one character. -/
def single (c : Char) : CharSet := range c c

/-- The first and the last number of each range in the set. -/
def ranges (set : CharSet) : List (Nat × Nat) := rangesOf set.changes

/-- Whether no character beyond ASCII is in the set. -/
def isAscii (set : CharSet) : Bool := set.ranges.all (·.2 < 0x80)

/-- Whether a character is in the set. -/
def contains (set : CharSet) (c : Char) : Bool :=
  holdsAt (ordinal c) false set.changes

/-- What the set does not hold. -/
def complement (set : CharSet) : CharSet :=
  match set with
  | ⟨0 :: changes, ascending⟩ => ⟨changes, (List.pairwise_cons.1 ascending).2⟩
  | ⟨[], _⟩ => ⟨[0], by simp⟩
  | ⟨(n + 1) :: changes, ascending⟩ =>
      ⟨0 :: (n + 1) :: changes,
        List.pairwise_cons.2
          ⟨by grind [List.pairwise_cons], ascending⟩⟩

/-- The set that holds what an operation says of the two sides. What is in
neither must not be in the combination. -/
def combine (op : Bool → Bool → Bool) (s t : CharSet) : CharSet :=
  ⟨merge op false false s.changes t.changes,
    ascending_merge s.ascending t.ascending⟩

/-- What is in either set. -/
def union (s t : CharSet) : CharSet := combine (· || ·) s t

/-- What is in both sets. -/
def inter (s t : CharSet) : CharSet := combine (· && ·) s t

/-- What is in the first set alone. -/
def sdiff (s t : CharSet) : CharSet := combine (fun a b => a && !b) s t

/-- What is in one set alone. -/
def symmDiff (s t : CharSet) : CharSet := combine Bool.xor s t

/-- The characters in any of some ranges. -/
def ofRanges (ranges : List (Char × Char)) : CharSet :=
  ranges.foldr (fun r set => union (range r.1 r.2) set) empty

-- =============================================================== cases

/-- The letters of ASCII. -/
def asciiLetters : List Char :=
  "ABCDEFGHIJKLMNOPQRSTUVWXYZabcdefghijklmnopqrstuvwxyz".toList

/-- The other case of a letter of ASCII. -/
def otherCase (c : Char) : Char :=
  if c.isUpper then c.toLower else c.toUpper

/-- The set with the other cases of its letters of ASCII. -/
def foldCase (set : CharSet) : CharSet :=
  asciiLetters.foldl
    (fun folded c =>
      if set.contains (otherCase c) then folded.union (single c) else folded)
    set

end CharSet

end LinkOrder.Regex
