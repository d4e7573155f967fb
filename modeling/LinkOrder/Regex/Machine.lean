/-
The machine that looks for an expression, as far as its room goes. One
machine reads texts forward and another one backward, to find where a
match ends and where it starts. What is repeated up to a number of times
is in a machine as often, so short patterns can make large machines.
-/
import LinkOrder.Regex.Expression
import LinkOrder.Regex.LiteralTree
import LinkOrder.Regex.SetStates
import LinkOrder.Text.Utf8

namespace LinkOrder.Regex

open Building (take ways readingWays)

/-- Which way a machine reads. -/
inductive Direction where
  | forward
  | backward
deriving DecidableEq, Repr, Inhabited

/-- What a part of a machine ends with: a state with one way on, or a fork,
which has other ways beside. -/
inductive Ending where
  | state
  | fork
deriving DecidableEq, Repr, Inhabited

/-- Leads from an ending on to something else. -/
def Ending.leadOn : Ending → Building Unit
  | state => return
  | fork => ways 1

namespace Machine

-- ================================================================ rows

/-- Goes on a number of times with a part that stands behind another, as
long as there is room. -/
def copies (part : Building Ending) :
    (count : Nat) → Ending → Room → Option (Ending × Room)
  | 0, ending, room => some (ending, room)
  | count + 1, ending, room =>
      let step : Building Ending := do
        let next ← part
        ending.leadOn
        return next
      match step room with
      | none => none
      | some (ending, room) => copies part count ending room

/-- Parts one after the other. -/
def row : List (Building Ending) → Building Ending
  | [] => do
      take 1 0
      return .state
  | first :: rest => do
      rest.foldlM
        (fun ending part => do
          let next ← part
          ending.leadOn
          return next)
        (← first)

/-- A part a number of times. -/
def exactly (part : Building Ending) : (count : Nat) → Building Ending
  | 0 => do
      take 1 0
      return .state
  | count + 1 => do copies part count (← part)

-- ============================================================= choices

/-- One part or another, between a fork and a state where they meet. -/
def anyOf : List (Building Ending) → Building Ending
  | [] => do
      take 1 0
      return .state
  | [only] => only
  | first :: second :: others => do
      let one ← first
      let two ← second
      take 2 0
      ways 2
      one.leadOn
      two.leadOn
      others.forM fun other => do
        let ending ← other
        ways 1
        ending.leadOn
      return .state

-- ========================================================= repetitions

/-- A part or nothing. -/
def optional (part : Building Ending) : Building Ending := do
  take 1 0
  let ending ← part
  take 1 0
  ways 2
  ending.leadOn
  return .state

/-- A part as often as there may be, and once at least. -/
def oneOrMore (part : Building Ending) : Building Ending := do
  let ending ← part
  ending.leadOn
  take 1 0
  ways 1
  return .fork

/-- A part as often as there may be. A part that may take nothing has to
be tried once before it is left out. -/
def anyNumber (alwaysTakes : Bool) (part : Building Ending) :
    Building Ending := do
  if alwaysTakes then
    take 1 0
    let ending ← part
    ways 1
    ending.leadOn
    return .fork
  else
    let ending ← part
    ending.leadOn
    take 3 0
    ways 4
    return .state

/-- A part as often as there may be, and more than once. -/
def atLeast (part : Building Ending) (count : Nat) : Building Ending := do
  let ending ← exactly part (count - 1)
  let last ← part
  ending.leadOn
  take 1 0
  last.leadOn
  ways 1
  return .fork

/-- A part a number of times, and up to a number of times more. -/
def between (part : Building Ending) (least more : Nat) :
    Building Ending := do
  let ending ← exactly part least
  take 1 0
  let further : Building Ending := do
    take 1 0
    let ending ← part
    ways 2
    return ending
  let last ← copies further more ending
  last.leadOn
  return .state

/-- A part as often as bounds say. -/
def repeated (alwaysTakes : Bool) (part : Building Ending) :
    (least : Nat) → (most : Option Nat) → Building Ending
  | 0, some 1 => optional part
  | 0, none => anyNumber alwaysTakes part
  | 1, none => oneOrMore part
  | least, none => atLeast part least
  | least, some most =>
      if least = most then exactly part least
      else between part least (most - least)

-- ================================================================ sets

/-- One character of a set. Those of ASCII are told apart in one state. -/
def ofSet (direction : Direction) (s : CharSet) : Building Ending := do
  if s.isAscii then take 2 (readingWays s.ranges.length)
  else
    match direction with
    | .forward => buildRows s.byteRows
    | .backward => buildRowsBack s.byteRows
  return .state

end Machine

-- ========================================================= expressions

namespace Expression

/-- The bytes of a text in the order in which they are read, if the
expression is a text. -/
def bytes? (direction : Direction) : Expression → Option (List UInt8)
  | literal text =>
      match direction with
      | .forward => some (Utf8.encode text)
      | .backward => some (Utf8.encode text).reverse
  | _ => none

/-- Room for the expression. -/
def build (direction : Direction) : Expression → Building Ending
  | empty => do
      take 1 0
      return .state
  | literal text => do
      take (Utf8.encode text).length 0
      return .state
  | set s _ => Machine.ofSet direction s
  | look _ => do
      take 1 0
      return .state
  | repetition least most _ inner =>
      Machine.repeated inner.alwaysTakes (inner.build direction) least most
  | capture inner =>
      match direction with
      | .forward => do
          take 1 0
          let ending ← inner.build direction
          take 1 0
          ending.leadOn
          return .state
      | .backward => inner.build direction
  | sequence parts =>
      let parts := each parts
      match direction with
      | .forward => Machine.row parts
      | .backward => Machine.row parts.reverse
  | choice branches =>
      match branches.mapM (bytes? direction) with
      | some texts => do
          LiteralTree.buildTexts texts
          return .state
      | none => Machine.anyOf (each branches)
where
  /-- Room for each of some expressions. -/
  each : List Expression → List (Building Ending)
    | [] => []
    | first :: rest => first.build direction :: each rest

/-- Whether a look stands at the side of the expression at which reading
starts, in every match. -/
def startsAt (direction : Direction) (wanted : Look) : Expression → Bool
  | empty => false
  | literal _ => false
  | set _ _ => false
  | look l => l = wanted
  | repetition least _ _ inner =>
      0 < least && inner.startsAt direction wanted
  | capture inner => inner.startsAt direction wanted
  | sequence parts =>
      match direction with
      | .forward => first parts
      | .backward => last parts
  | choice branches => all branches
where
  /-- Whether the look stands in front of what takes characters. -/
  first : List Expression → Bool
    | [] => false
    | part :: parts =>
        part.startsAt direction wanted || part.isWidthless && first parts
  /-- Whether the look stands behind what takes characters. -/
  last : List Expression → Bool
    | [] => false
    | part :: parts =>
        last parts
          || isWidthless.allWidthless parts
            && part.startsAt direction wanted
  /-- Whether the look stands there in each of some expressions. -/
  all : List Expression → Bool
    | [] => true
    | branch :: branches =>
        branch.startsAt direction wanted && all branches

/-- Whether a match can only start, or end, where the text does. -/
def isAnchored (direction : Direction) (expression : Expression) : Bool :=
  match direction with
  | .forward => expression.startsAt direction .textStart
  | .backward => expression.startsAt direction .textStop

/-- Room for the machine as a whole. What is not anchored can be found in
the midst of a text, for which any bytes are read in front of it. -/
def buildWhole (direction : Direction) (expression : Expression) :
    Building Unit := do
  if expression.isAnchored direction then take 1 0
  else
    take 3 (readingWays 1)
    ways 2
  let ending ← (capture expression).build direction
  take 1 0
  ending.leadOn

/-- Whether there is room for the machine. -/
def fits (direction : Direction) (expression : Expression) : Bool :=
  (expression.buildWhole direction {}).isSome

end Expression

end LinkOrder.Regex
