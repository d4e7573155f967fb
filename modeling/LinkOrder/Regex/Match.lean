/-
Which texts match an expression. The places of a text are the gaps before,
between and behind its characters; a mask says for each of them whether a
match can have come there. An expression takes a mask to the places that
it can lead to from there. A mask that does not change any more stays as
it is, so that a repetition takes steps until then only.
-/
import LinkOrder.Regex.Expression

namespace LinkOrder.Regex

-- ============================================================== places

/-- What stands on the two sides of a place in a text. -/
structure Gap where
  before : Option Char
  behind : Option Char
deriving DecidableEq, Repr

/-- The places of a text, behind a character if there is one. -/
def gaps (before : Option Char) : List Char → List Gap
  | [] => [⟨before, none⟩]
  | c :: text => ⟨before, some c⟩ :: gaps (some c) text

/-- Whether the character is part of a word of ASCII. -/
def isWordChar (c : Char) : Bool := c.isAlphanum || c = '_'

/-- Whether the edge is there, between what is or is not part of a word. -/
def WordEdge.holds (before behind : Bool) : WordEdge → Bool
  | either => before != behind
  | neither => before == behind
  | start => !before && behind
  | stop => before && !behind
  | startHalf => !before
  | stopHalf => !behind

/-- Whether a look finds at a place what it asks for. Words are those of
ASCII. -/
def Look.holds (gap : Gap) : Look → Bool
  | textStart => gap.before.isNone
  | textStop => gap.behind.isNone
  | lineStart => gap.before.isNone || gap.before = some '\n'
  | lineStop => gap.behind.isNone || gap.behind = some '\n'
  | returnStart =>
      gap.before.isNone || gap.before = some '\n'
        || (gap.before = some '\r' && gap.behind ≠ some '\n')
  | returnStop =>
      gap.behind.isNone || gap.behind = some '\r'
        || (gap.behind = some '\n' && gap.before ≠ some '\r')
  | word edge _ =>
      edge.holds (gap.before.any isWordChar) (gap.behind.any isWordChar)

-- =============================================================== masks

/-- For each place of a text, whether it is meant. -/
abbrev Mask := List Bool

namespace Mask

/-- The places in either mask. -/
def union (a b : Mask) : Mask := List.zipWith (· || ·) a b

/-- The places of the mask for which a test holds. -/
def keep (test : Gap → Bool) (gaps : List Gap) (mask : Mask) : Mask :=
  List.zipWith (fun here gap => here && test gap) mask gaps

/-- The places behind those of the mask, where a test holds for what is in
between. -/
def advance (test : Char → Bool) (gaps : List Gap) (mask : Mask) : Mask :=
  false :: (keep (·.behind.any test) gaps mask).dropLast

/-- Takes a mask a number of steps on. When it does not change any more,
no step that is left can change it. -/
def iterate (step : Mask → Mask) : Nat → Mask → Mask
  | 0, mask => mask
  | n + 1, mask =>
      let next := step mask
      if next = mask then mask else iterate step n next

end Mask

-- ============================================================= matches

namespace Expression

/-- The places to which the expression can lead from those of a mask. A
repetition without an upper bound adds places until no more can be
reached, and there are no more than the text has. -/
def reach (gaps : List Gap) : Expression → Mask → Mask
  | empty => id
  | literal text => fun mask =>
      text.foldl (fun mask c => Mask.advance (· = c) gaps mask) mask
  | set s _ => Mask.advance s.contains gaps
  | look l => Mask.keep l.holds gaps
  | repetition least most _ inner =>
      let step := inner.reach gaps
      let more := match most with
        | some most => most - least
        | none => gaps.length
      fun mask =>
        Mask.iterate (fun seen => seen.union (step seen)) more
          (Mask.iterate step least mask)
  | capture inner => inner.reach gaps
  | sequence parts => inTurn parts
  | choice branches => atOnce branches
where
  /-- The places to which some expressions can lead one after the
  other. -/
  inTurn : List Expression → Mask → Mask
    | [] => id
    | first :: rest =>
        let one := first.reach gaps
        let others := inTurn rest
        fun mask => others (one mask)
  /-- The places to which one of some expressions can lead. -/
  atOnce : List Expression → Mask → Mask
    | [] => fun mask => mask.map fun _ => false
    | first :: rest =>
        let one := first.reach gaps
        let others := atOnce rest
        fun mask => (one mask).union (others mask)

/-- Whether some part of a text matches. -/
def occursIn (expression : Expression) (text : List Char) : Bool :=
  let gaps := gaps none text
  (expression.reach gaps (List.replicate gaps.length true)).any id

end Expression

end LinkOrder.Regex
