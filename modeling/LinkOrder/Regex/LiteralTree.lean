/-
Texts that are looked for at once, as a tree: texts that start with the
same bytes share them. The order of the texts is kept, as the first that
matches is preferred. So where a text ends there is a stop, and texts that
come later do not share what was read before it.
-/
import LinkOrder.Regex.Room

namespace LinkOrder.Regex

/-- What can come next, the latest first. -/
inductive LiteralTree where
  | none
  /-- A text ends here. -/
  | stop (earlier : LiteralTree)
  | byte (byte : UInt8) (behind earlier : LiteralTree)
deriving Repr, Inhabited

namespace LiteralTree

/-- Changes what comes behind a byte, if that can come next since the
last stop. -/
def change? (b : UInt8) (f : LiteralTree → LiteralTree) :
    LiteralTree → Option LiteralTree
  | none => Option.none
  | stop _ => Option.none
  | byte c behind earlier =>
      if b = c then some (byte c (f behind) earlier)
      else (change? b f earlier).map (byte c behind)

/-- The tree with one more text. That a text ends where nothing comes next
is said once. -/
def add : List UInt8 → LiteralTree → LiteralTree
  | [], stop none => stop none
  | [], tree => stop tree
  | b :: text, tree =>
      (change? b (add text) tree).getD (byte b (add text none) tree)

/-- The tree of some texts. -/
def ofTexts (texts : List (List UInt8)) : LiteralTree :=
  texts.foldl (fun tree text => tree.add text) none

/-- Whether no byte comes next. -/
def isEnd : LiteralTree → Bool
  | none => true
  | stop earlier => earlier.isEnd
  | byte _ _ _ => false

/-- Room for the bytes that can come next between two stops. One state
reads them all, to which one way leads. -/
def buildReader : (bytes : Nat) → Building Unit
  | 0 => return
  | 1 => do
      Building.take 1 0
      Building.ways 1
  | bytes => do
      Building.take 1 (Building.readingWays bytes)
      Building.ways 1

/-- Room for what can come next, where a number of bytes that can come
next too have been seen since the last stop. What comes behind a byte has
a state of its own, unless that is the end. -/
def build : (bytes : Nat) → LiteralTree → Building Unit
  | bytes, none => buildReader bytes
  | bytes, stop earlier => do
      buildReader bytes
      Building.ways 1
      build 0 earlier
  | bytes, byte _ behind earlier => do
      if !behind.isEnd then
        Building.take 1 0
        build 0 behind
      build (bytes + 1) earlier

/-- Room for some texts, with a state at the start and one at the end. -/
def buildTexts (texts : List (List UInt8)) : Building Unit := do
  Building.take 2 0
  build 0 (ofTexts texts)

end LiteralTree

end LinkOrder.Regex
