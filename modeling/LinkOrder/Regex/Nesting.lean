/-
How deep a pattern is nested. Groups, repetitions, brackets, rows of parts
and of branches each count as one level, with what is in them a level
deeper. Patterns beyond a limit are refused, at the first part that goes
beyond it.
-/
import LinkOrder.Regex.Fault
import LinkOrder.Regex.Tree

namespace LinkOrder.Regex

/-- The greatest depth of a pattern. -/
def depthLimit : Nat := 250

/-- Accepts a part that is on a level within the limit. -/
def acceptDepth (depth : Nat) (span : Span) : Except Fault Unit :=
  if depth ≤ depthLimit then .ok ()
  else .error { reason := .nestedTooDeep depthLimit, span := span }

/-- Accepts a class, around which there are a number of levels, that does
not go beyond the limit. -/
def ClassTree.acceptWithin (depth : Nat) :
    ClassTree → Except Fault Unit
  | empty _ => .ok ()
  | literal _ => .ok ()
  | range _ _ _ => .ok ()
  | named _ _ _ => .ok ()
  | short _ _ _ => .ok ()
  | property _ _ => .ok ()
  | brackets span _ inner => do
      acceptDepth (depth + 1) span
      acceptWithin (depth + 1) inner
  | union span items => do
      acceptDepth (depth + 1) span
      acceptAll (depth + 1) items
  | operation span _ left right => do
      acceptDepth (depth + 1) span
      acceptWithin (depth + 1) left
      acceptWithin (depth + 1) right
where
  /-- Accepts classes of which none goes beyond the limit. -/
  acceptAll (depth : Nat) : List ClassTree → Except Fault Unit
    | [] => .ok ()
    | item :: items => do
        acceptWithin depth item
        acceptAll depth items

/-- Accepts a pattern, around which there are a number of levels, that
does not go beyond the limit. -/
def Tree.acceptWithin (depth : Nat) : Tree → Except Fault Unit
  | empty _ => .ok ()
  | flags _ _ => .ok ()
  | literal _ => .ok ()
  | dot _ => .ok ()
  | assertion _ _ => .ok ()
  | short _ _ _ => .ok ()
  | property _ _ => .ok ()
  | brackets span _ inner => do
      acceptDepth (depth + 1) span
      inner.acceptWithin (depth + 1)
  | repetition span _ _ _ inner => do
      acceptDepth (depth + 1) span
      acceptWithin (depth + 1) inner
  | group span _ _ inner => do
      acceptDepth (depth + 1) span
      acceptWithin (depth + 1) inner
  | alternation span branches => do
      acceptDepth (depth + 1) span
      acceptAll (depth + 1) branches
  | concat span parts => do
      acceptDepth (depth + 1) span
      acceptAll (depth + 1) parts
where
  /-- Accepts patterns of which none goes beyond the limit. -/
  acceptAll (depth : Nat) : List Tree → Except Fault Unit
    | [] => .ok ()
    | part :: parts => do
        acceptWithin depth part
        acceptAll depth parts

end LinkOrder.Regex
