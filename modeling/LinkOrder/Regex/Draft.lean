/-
Reading a whole pattern. The groups that are open are kept on a stack,
each with the parts that stood before it and with the branches that it has
so far; brackets have a stack of their own while they are open. Main
definition: the tree of a pattern.
-/
import LinkOrder.Regex.Bracket
import LinkOrder.Regex.Group

namespace LinkOrder.Regex

open Reading

/-- Parts that follow each other, the last of them first, and where they
start. -/
structure Parts where
  start : Place
  parts : List Tree := []
deriving Repr, Inhabited

/-- The parts as one tree, which ends at a place. -/
def Parts.tree (parts : Parts) (stop : Place) : Tree :=
  match parts.parts with
  | [] => .empty ⟨parts.start, stop⟩
  | [part] => part
  | all => .concat ⟨parts.start, stop⟩ all.reverse

/-- What is open around the parts that are being read. -/
inductive GroupFrame where
  /-- A group, and what stood before it. -/
  | group (before : Parts) (span : Span) (captures : Bool)
      (flags : List FlagItem) (spacedOutside : Bool)
  /-- Branches, the last of them first. -/
  | branches (start : Place) (branches : List Tree)
deriving Repr, Inhabited

/-- A pattern of which some has been read. -/
structure Draft where
  parts : Parts
  groups : List GroupFrame := []
  names : Names := []
  /-- The brackets that are open, if any are. -/
  brackets : Option ClassDraft := none
deriving Repr, Inhabited

namespace Draft

/-- The draft with one more part. -/
def add (draft : Draft) (part : Tree) : Draft :=
  { draft with
    parts := { draft.parts with parts := part :: draft.parts.parts } }

-- ============================================================== groups

/-- Whether blanks say nothing from here on. -/
def setSpaced (spaced : Bool) : Reading Unit :=
  modify fun cursor => { cursor with spaced := spaced }

/-- Opens a group, or takes flags that hold from here on. -/
def openGroup (draft : Draft) : Reading Draft := do
  let (opening, names) ← readOpening draft.names
  let draft := { draft with names := names }
  let spaced := (← get).spaced
  match opening with
  | .flags span items =>
      setSpaced ((flagState? .spaced true items).getD spaced)
      return draft.add (.flags span items)
  | .group span captures items =>
      setSpaced ((flagState? .spaced true items).getD spaced)
      let frame := GroupFrame.group draft.parts span captures items spaced
      return { draft with
        groups := frame :: draft.groups
        parts := { start := ← here } }

/-- Ends a branch, at a bar that comes next. -/
def branch (draft : Draft) : Reading Draft := do
  let place ← here
  let tree := draft.parts.tree place
  next
  let parts : Parts := { start := ← here }
  match draft.groups with
  | .branches start branches :: groups =>
      return { draft with
        parts := parts
        groups := .branches start (tree :: branches) :: groups }
  | groups =>
      return { draft with
        parts := parts
        groups := .branches draft.parts.start [tree] :: groups }

/-- What has been read since the innermost group was opened, up to a
place, and the frames from that group on. -/
def innermost (draft : Draft) (stop : Place) : Tree × List GroupFrame :=
  let last := draft.parts.tree stop
  match draft.groups with
  | .branches start branches :: groups =>
      (.alternation ⟨start, stop⟩ (last :: branches).reverse, groups)
  | groups => (last, groups)

/-- Closes the innermost group, at a parenthesis that comes next. -/
def closeGroup (draft : Draft) : Reading Draft := do
  let place ← here
  let (inner, groups) := draft.innermost place
  match groups with
  | .group before span captures flags spaced :: groups =>
      setSpaced spaced
      next
      let tree := Tree.group (← since span.first) captures flags inner
      return { draft with parts := before, groups := groups }.add tree
  | _ => failNext .groupUnopened

/-- Ends the pattern. -/
def finish (draft : Draft) : Reading Tree := do
  match draft.brackets with
  | some brackets => unclosedClass brackets.frames
  | none =>
      let (tree, groups) := draft.innermost (← here)
      match groups with
      | .group _ span _ _ _ :: _ => fail .groupUnclosed span
      | _ => return tree

-- ========================================================= repetitions

/-- The last part, which is to be repeated, and the draft without it. -/
def takeLast (draft : Draft) : Reading (Tree × Draft) := do
  match draft.parts.parts with
  | [] | .empty _ :: _ | .flags _ _ :: _ => failHere .repetitionOfNothing
  | part :: parts =>
      return (part, { draft with parts := { draft.parts with parts } })

/-- Takes a question mark, which makes a repetition reluctant. -/
def takeReluctance : Reading Bool := take? ['?']

/-- A repetition by a mark, which comes next. -/
def repeatByMark (draft : Draft) (least : Nat) (most : Option Nat) :
    Reading Draft := do
  let (part, draft) ← draft.takeLast
  next
  let reluctant ← takeReluctance
  return draft.add
    (.repetition (← since part.span.first) least most reluctant part)

/-- A number in a count, or what is wrong with it. -/
def readCount : Reading (Except Fault Nat) := do
  let _ ← takeRun Text.isBlank
  let start ← here
  let digits ← takeRun fun c => (Numeral.decimalDigit? c).isSome
  let span ← since start
  let _ ← takeRun Text.isBlank
  if digits = [] then
    return .error { reason := .countEmpty, span := span }
  else
    match Numeral.Base.decimal.valueFrom? 0 digits with
    | some value =>
        if value < UInt32.size then return .ok value
        else return .error { reason := .decimalInvalid, span := span }
    | none => return .error { reason := .decimalInvalid, span := span }

/-- Fails at the end of the pattern, in a count that starts at a place. -/
def demandInCount (start : Place) : Reading Unit := do
  if ← atEnd then fail .countUnclosed (← since start)

/-- The bounds in a count, whose opening brace has been read. -/
def readBounds (start : Place) : Reading (Nat × Option Nat) := do
  demandInCount start
  let least ← readCount
  demandInCount start
  if (← rest).head? = some ',' then
    advance
    demandInCount start
    if (← rest).head? = some '\x7d' then return (← least, none)
    else
      let least ← least
      let most ← readCount
      return (least, some (← most))
  else
    let exact ← least
    return (exact, some exact)

/-- A repetition by a count in braces, of which the first comes next. -/
def repeatByCount (draft : Draft) : Reading Draft := do
  let start ← here
  let (part, draft) ← draft.takeLast
  advance
  let (least, most) ← readBounds start
  if (← rest).head? ≠ some '\x7d' then
    fail .countUnclosed (← since start)
  advance
  let reluctant ← takeReluctance
  if most.any (· < least) then fail .countRangeInvalid (← since start)
  return draft.add
    (.repetition (← since part.span.first) least most reluctant part)

-- =============================================================== steps

/-- The next step outside of brackets, where some character is left. -/
def outerStep (draft : Draft) : Reading Draft := do
  match ← rest with
  | '(' :: _ => draft.openGroup
  | ')' :: _ => draft.closeGroup
  | '|' :: _ => draft.branch
  | '[' :: _ =>
      let brackets : ClassDraft := {}
      return { draft with brackets := some (← brackets.openBrackets) }
  | '?' :: _ => draft.repeatByMark 0 (some 1)
  | '*' :: _ => draft.repeatByMark 0 none
  | '+' :: _ => draft.repeatByMark 1 none
  | '\x7b' :: _ => draft.repeatByCount
  | _ => return draft.add (← readPrimitive).tree

/-- The next step. -/
def step (draft : Draft) : Reading Draft := do
  skip
  if ← atEnd then return draft
  match draft.brackets with
  | none => draft.outerStep
  | some brackets =>
      match ← brackets.step with
      | .inl brackets => return { draft with brackets := some brackets }
      | .inr tree => return { draft with brackets := none }.add tree

end Draft

/-- The tree of a pattern. -/
def Tree.ofPattern (pattern : List Char) : Except Fault Tree := do
  let draft : Draft := { parts := { start := .start } }
  let (tree, _) ← (untilEnd Draft.step Draft.finish draft).run
    (.ofPattern pattern)
  return tree

end LinkOrder.Regex
