/-
Places in a pattern, as faults name them: by line and column, both from
one. A span runs from a place up to another, which it leaves out.
-/

namespace LinkOrder.Regex

/-- A place in a pattern. -/
structure Place where
  line : Nat
  column : Nat
deriving DecidableEq, Repr, Inhabited

namespace Place

/-- Where a pattern starts. -/
def start : Place := ⟨1, 1⟩

/-- The place behind a character that stands here. -/
def after (place : Place) (c : Char) : Place :=
  if c = '\n' then ⟨place.line + 1, 1⟩
  else ⟨place.line, place.column + 1⟩

/-- Whether the place does not stand behind the other. -/
def atMost (a b : Place) : Bool :=
  a.line < b.line || (a.line = b.line && a.column ≤ b.column)

end Place

/-- A part of a pattern. -/
structure Span where
  first : Place
  stop : Place
deriving DecidableEq, Repr, Inhabited

namespace Span

/-- The empty part at a place. -/
def empty (place : Place) : Span := ⟨place, place⟩

/-- Whether the part lies on one line. -/
def isOneLine (span : Span) : Bool := span.first.line = span.stop.line

/-- Whether the part comes before the other, or is the same. -/
def atMost (a b : Span) : Bool :=
  if a.first = b.first then a.stop.atMost b.stop else a.first.atMost b.first

end Span

end LinkOrder.Regex
