/-
How groups start: an opening parenthesis, behind which a question mark may
announce a name or flags. Flags that end in a closing parenthesis make no
group; they hold from there on.
-/
import LinkOrder.Regex.Cursor
import LinkOrder.Regex.Tree
import LinkOrder.Text.Letter

namespace LinkOrder.Regex

open Reading

-- =============================================================== flags

/-- The flag that a character stands for, or the sign of negation. -/
def flagItem? (c : Char) : Option FlagItem :=
  match c with
  | 'i' => some (.flag .ignoreCase)
  | 'm' => some (.flag .multiLine)
  | 's' => some (.flag .dotAll)
  | 'U' => some (.flag .swapGreed)
  | 'u' => some (.flag .unicode)
  | 'R' => some (.flag .crlf)
  | 'x' => some (.flag .spaced)
  | '-' => some .negation
  | _ => none

/-- What is wrong with an item that is there already. -/
def FlagItem.repetitionReason : FlagItem → Reason
  | flag _ => .flagDuplicate
  | negation => .flagNegationRepeated

/-- The flags up to a colon or a closing parenthesis, behind ones that
have been seen, the last of them first. -/
def scanFlags (place : Place) (seen : List (FlagItem × Span)) :
    List Char → Except Fault (List (FlagItem × Span))
  | [] => .error { reason := .flagsUnfinished, span := .empty place }
  | c :: text =>
      let span : Span := ⟨place, place.after c⟩
      if c = ':' || c = ')' then
        match seen with
        | (.negation, span) :: _ =>
            .error { reason := .flagNegationDangling, span := span }
        | _ => .ok seen.reverse
      else
        match flagItem? c with
        | none => .error { reason := .flagUnknown, span := span }
        | some item =>
            match seen.lookup item with
            | some earlier =>
                .error {
                  reason := item.repetitionReason
                  span := span
                  earlier := some earlier }
            | none => scanFlags span.stop ((item, span) :: seen) text

/-- Reads flags up to a colon or a closing parenthesis. -/
def readFlags : Reading (List FlagItem) := do
  let items ← scanFlags (← here) [] (← rest)
  drop items.length
  return items.map Prod.fst

/-- Whether the items switch a flag on or off, if they say so. -/
def flagState? (flag : Flag) : (on : Bool) → List FlagItem → Option Bool
  | _, [] => none
  | _, .negation :: items => flagState? flag false items
  | on, .flag other :: items =>
      if other = flag then some on else flagState? flag on items

-- =============================================================== names

/-- Whether the character can be part of a name. -/
def isNameChar (first : Bool) (c : Char) : Bool :=
  c = '_' || Text.isLetter c
    || (!first && (c = '.' || c = '[' || c = ']' || Text.isNumeral c))

/-- The name up to a closing angle. -/
def scanName (place : Place) (first : Bool) :
    List Char → Except Fault (List Char)
  | [] => .error { reason := .groupNameUnclosed, span := .empty place }
  | c :: text =>
      if c = '>' then .ok []
      else if isNameChar first c then
        (scanName (place.after c) false text).map (c :: ·)
      else
        .error {
          reason := .groupNameInvalid
          span := ⟨place, place.after c⟩ }

/-- The names of groups, with the places where they stand. -/
abbrev Names := List (List Char × Span)

/-- Reads a name and its closing angle, and adds it to the others, from
which it must differ. -/
def readName (names : Names) : Reading Names := do
  let start ← here
  let name ← scanName start true (← rest)
  drop name.length
  let span ← since start
  next
  if name = [] then fail .groupNameEmpty (.empty start)
  match names.lookup name with
  | some earlier =>
      throw {
        reason := .groupNameDuplicate
        span := span
        earlier := some earlier }
  | none => return (name, span) :: names

-- ============================================================ openings

/-- What an opening parenthesis starts. -/
inductive Opening where
  /-- Flags that hold from here on. -/
  | flags (span : Span) (items : List FlagItem)
  | group (span : Span) (captures : Bool) (flags : List FlagItem)
deriving Repr, Inhabited

/-- Whether what follows a parenthesis asks for a look around. -/
def takeLookAround : Reading Bool := do
  for mark in ["?=", "?!", "?<=", "?<!"] do
    if ← take? mark.toList then return true
  return false

/-- Flags behind a question mark that stands in a parenthesis. -/
def readFlagOpening (openSpan : Span) (question : Place) :
    Reading Opening := do
  if ← atEnd then fail .groupUnclosed openSpan
  let items ← readFlags
  let endsHere := (← rest).head? = some ')'
  next
  if endsHere then
    if items = [] then fail .repetitionOfNothing (.empty question)
    else return .flags (← since openSpan.first) items
  else return .group openSpan false items

/-- What starts at an opening parenthesis, which comes next. -/
def readOpening (names : Names) : Reading (Opening × Names) := do
  let openSpan ← nextSpan
  advance
  if ← takeLookAround then fail .lookAround (← since openSpan.first)
  let question ← here
  if (← take? ['?', 'P', '<']) || (← take? ['?', '<']) then
    let names ← readName names
    return (.group openSpan true [], names)
  else if ← take? ['?'] then
    return (← readFlagOpening openSpan question, names)
  else return (.group openSpan true [], names)

end LinkOrder.Regex
