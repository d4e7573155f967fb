/-
What stands between brackets: characters, ranges, classes, brackets
within, and operations on all of these, which bind alike and from the
left. The brackets that are still open are kept on a stack; an operation
waits there for its right side.
-/
import LinkOrder.Regex.Escape

namespace LinkOrder.Regex

open Reading

/-- The items of a class, the last of them first. -/
structure Items where
  span : Span
  items : List ClassTree := []
deriving Repr, Inhabited

/-- The items with one more. -/
def Items.add (items : Items) (item : ClassTree) : Items :=
  let start :=
    if items.items.isEmpty then item.span.first else items.span.first
  ⟨⟨start, item.span.stop⟩, item :: items.items⟩

/-- The items as one class. -/
def Items.tree (items : Items) : ClassTree :=
  match items.items with
  | [] => .empty items.span
  | [item] => item
  | all => .union items.span all.reverse

/-- What is still open. -/
inductive ClassFrame where
  /-- Brackets, among the items of those around them. -/
  | brackets (outer : Items) (span : Span) (negated : Bool)
  /-- An operation that lacks its right side. -/
  | operation (operation : ClassOperation) (left : ClassTree)
deriving Repr, Inhabited

-- ================================================================ items

/-- The class that a name stands for. -/
def namedClass? (name : List Char) : Option NamedClass :=
  match String.ofList name with
  | "alnum" => some .alnum
  | "alpha" => some .alpha
  | "ascii" => some .ascii
  | "blank" => some .blank
  | "cntrl" => some .cntrl
  | "digit" => some .digit
  | "graph" => some .graph
  | "lower" => some .lower
  | "print" => some .print
  | "punct" => some .punct
  | "space" => some .space
  | "upper" => some .upper
  | "word" => some .word
  | "xdigit" => some .xdigit
  | _ => none

/-- A class by name, `[:name:]` with an optional `^` before the name, if
that is what comes next: how long it is, whether it is negated, and the
class. -/
def namedClassAt? (text : List Char) :
    Option (Nat × Bool × NamedClass) :=
  match text with
  | '[' :: ':' :: inner =>
      let negated := inner.head? = some '^'
      let body := if negated then inner.tail else inner
      let name := body.takeWhile (· ≠ ':')
      match body.drop name.length, namedClass? name with
      | ':' :: ']' :: _, some kind =>
          some (name.length + (if negated then 5 else 4), negated, kind)
      | _, _ => none
  | _ => none

/-- Reads a class by name, if one comes next. -/
def readNamedClass? : Reading (Option ClassTree) := do
  let start ← here
  match namedClassAt? (← rest) with
  | none => return none
  | some (length, negated, kind) =>
      drop length
      return some (.named (← since start) negated kind)

/-- One side of a range, or an item of its own. Marks stand for
themselves between brackets. -/
def readClassPrimitive : Reading Primitive := do
  match ← rest with
  | '\\' :: _ => readEscape
  | c :: _ =>
      let span ← nextSpan
      next
      return .literal { span := span, char := c }
  | [] => failHere .escapeUnfinished

/-- A primitive as an item of a class. -/
def Primitive.item (primitive : Primitive) : Except Fault ClassTree :=
  match primitive with
  | .literal l => .ok (.literal l)
  | .short span negated kind => .ok (.short span negated kind)
  | .property span name => .ok (.property span name)
  | .dot span | .assertion span _ =>
      .error { reason := .classEscapeInvalid, span := span }

/-- A primitive as one side of a range. -/
def Primitive.boundary (primitive : Primitive) : Except Fault Literal :=
  match primitive with
  | .literal l => .ok l
  | other => .error { reason := .classRangeLiteral, span := other.span }

/-- The character behind the next one. Blanks in between are passed over
if they say nothing; a comment there is entered rather than passed. -/
def peek : Reading (Option Char) := do
  let cursor ← get
  let behind := cursor.text.tail
  if !cursor.spaced then return behind.head?
  else
    let rec look : (inComment : Bool) → List Char → Option Char
      | _, [] => none
      | inComment, c :: text =>
          if Text.isBlank c then look inComment text
          else if !inComment && c = '#' then look true text
          else some c
    match look false behind with
    | some c => return some c
    | none => return behind.head?

/-- The fault of brackets that are not closed: the innermost ones. -/
def unclosedClass {α : Type} (frames : List ClassFrame) : Reading α :=
  let rec find : List ClassFrame → Span
    | [] => default
    | .brackets _ span _ :: _ => span
    | .operation _ _ :: frames => find frames
  fail .classUnclosed (find frames)

/-- An item or a range of them. A hyphen at the end of the brackets, and
one before another, makes no range. -/
def readClassRange (frames : List ClassFrame) : Reading ClassTree := do
  let low ← readClassPrimitive
  skip
  match ← rest with
  | [] => unclosedClass frames
  | '-' :: _ =>
      let behind ← peek
      if behind = some ']' || behind = some '-' then low.item
      else
        advance
        if ← atEnd then unclosedClass frames
        else
          let high ← readClassPrimitive
          let span : Span := ⟨low.span.first, high.span.stop⟩
          let low ← low.boundary
          let high ← high.boundary
          if high.char < low.char then fail .classRangeInvalid span
          else return .range span low high
  | _ => low.item

-- ============================================================= openings

/-- The hyphens with which a class starts. -/
def readHyphens (start : Place) (items : Items) : Nat → Reading Items
  | 0 => return items
  | n + 1 => do
      match ← rest with
      | '-' :: _ =>
          let span ← nextSpan
          advance
          if ← atEnd then fail .classUnclosed (.empty start)
          else
            let hyphen := ClassTree.literal { span := span, char := '-' }
            readHyphens start (items.add hyphen) n
      | _ => return items

/-- Opening brackets, which come next, with what they say of themselves
and the items that stand for themselves because they come first: hyphens,
or a closing bracket. -/
def readBracketOpening : Reading (Span × Bool × Items) := do
  let start ← here
  let demandMore : Reading Unit := do
    if ← atEnd then fail .classUnclosed (← since start)
  advance
  demandMore
  let negated := (← rest).head? = some '^'
  if negated then
    advance
    demandMore
  let items ← readHyphens start { span := .empty (← here) }
    (← rest).length
  match items.items, ← rest with
  | [], ']' :: _ =>
      let span ← nextSpan
      advance
      demandMore
      let bracket := ClassTree.literal { span := span, char := ']' }
      return (← since start, negated, items.add bracket)
  | _, _ => return (← since start, negated, items)

-- ================================================================ steps

/-- The brackets that are open, and the items of the innermost. -/
structure ClassDraft where
  frames : List ClassFrame := []
  items : Items := { span := default }
deriving Repr, Inhabited

/-- A class as the right side of the operation that waits for it, if there
is one, and the frames below. -/
def settle (right : ClassTree) :
    List ClassFrame → ClassTree × List ClassFrame
  | .operation op left :: frames =>
      (.operation ⟨left.span.first, right.span.stop⟩ op left right, frames)
  | frames => (right, frames)

namespace ClassDraft

/-- Opens brackets, which come next. -/
def openBrackets (draft : ClassDraft) : Reading ClassDraft := do
  let (span, negated, items) ← readBracketOpening
  return ⟨.brackets draft.items span negated :: draft.frames, items⟩

/-- Starts an operation, which has been read. -/
def operate (draft : ClassDraft) (operation : ClassOperation) :
    Reading ClassDraft := do
  let (left, frames) := settle draft.items.tree draft.frames
  return ⟨.operation operation left :: frames, { span := .empty (← here) }⟩

/-- Closes the innermost brackets: what they hold, if they are the
outermost, or else the draft with them as an item of the next. -/
def close (draft : ClassDraft) : Reading (ClassDraft ⊕ Tree) := do
  next
  let (inner, frames) := settle draft.items.tree draft.frames
  match frames with
  | .brackets outer span negated :: frames =>
      let span ← since span.first
      if frames.isEmpty then return .inr (.brackets span negated inner)
      else
        let item := ClassTree.brackets span negated inner
        return .inl ⟨frames, outer.add item⟩
  | _ => unclosedClass frames

/-- The operation that comes next, if one does. -/
def takeOperation? : Reading (Option ClassOperation) := do
  if ← take? ['&', '&'] then return some .intersection
  else if ← take? ['-', '-'] then return some .difference
  else if ← take? ['~', '~'] then return some .symmetricDifference
  else return none

/-- The next step in reading a class, of which some character is left. -/
def step (draft : ClassDraft) : Reading (ClassDraft ⊕ Tree) := do
  match ← rest with
  | ']' :: _ => draft.close
  | '[' :: _ =>
      match ← readNamedClass? with
      | some item => return .inl { draft with items := draft.items.add item }
      | none => return .inl (← draft.openBrackets)
  | _ =>
      match ← takeOperation? with
      | some operation => return .inl (← draft.operate operation)
      | none =>
          let item ← readClassRange draft.frames
          return .inl { draft with items := draft.items.add item }

end ClassDraft

end LinkOrder.Regex
