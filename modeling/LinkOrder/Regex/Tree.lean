/-
Patterns as they are written: a tree whose nodes know the part of the
pattern they were read from. What a pattern means is an `Expression`.
-/
import LinkOrder.Regex.Place

namespace LinkOrder.Regex

/-- A character that stands for itself. -/
structure Literal where
  span : Span
  char : Char
  /-- Whether it is written as the two digits of a byte. -/
  isByte : Bool := false
deriving DecidableEq, Repr, Inhabited

/-- What must hold at a place, without a character being taken. -/
inductive Assertion where
  | lineStart
  | lineEnd
  | textStart
  | textEnd
  | wordBoundary
  | noWordBoundary
  | wordStart
  | wordEnd
  | wordStartHalf
  | wordEndHalf
deriving DecidableEq, Repr, Inhabited

/-- The classes with an escape of their own. -/
inductive ShortClass where
  | digit
  | space
  | word
deriving DecidableEq, Repr, Inhabited

/-- The classes of ASCII that are called by name. -/
inductive NamedClass where
  | alnum
  | alpha
  | ascii
  | blank
  | cntrl
  | digit
  | graph
  | lower
  | print
  | punct
  | space
  | upper
  | word
  | xdigit
deriving DecidableEq, Repr, Inhabited

/-- What changes how the rest of a group is read. -/
inductive Flag where
  | ignoreCase
  | multiLine
  | dotAll
  | swapGreed
  | unicode
  | crlf
  | spaced
deriving DecidableEq, Repr, Inhabited

/-- A flag, or the sign behind which flags are switched off. -/
inductive FlagItem where
  | flag (flag : Flag)
  | negation
deriving DecidableEq, Repr, Inhabited

/-- How two classes are combined. -/
inductive ClassOperation where
  | intersection
  | difference
  | symmetricDifference
deriving DecidableEq, Repr, Inhabited

/-- What stands between brackets. -/
inductive ClassTree where
  | empty (span : Span)
  | literal (literal : Literal)
  | range (span : Span) (low high : Literal)
  | named (span : Span) (negated : Bool) (kind : NamedClass)
  | short (span : Span) (negated : Bool) (kind : ShortClass)
  | property (span : Span) (name : List Char)
  | brackets (span : Span) (negated : Bool) (inner : ClassTree)
  | union (span : Span) (items : List ClassTree)
  | operation (span : Span) (operation : ClassOperation)
      (left right : ClassTree)
deriving Repr, Inhabited

/-- The part that a class was read from. -/
def ClassTree.span : ClassTree → Span
  | empty span => span
  | literal l => l.span
  | range span _ _ => span
  | named span _ _ => span
  | short span _ _ => span
  | property span _ => span
  | brackets span _ _ => span
  | union span _ => span
  | operation span _ _ _ => span

/-- A pattern, or a part of one. -/
inductive Tree where
  | empty (span : Span)
  | flags (span : Span) (items : List FlagItem)
  | literal (literal : Literal)
  | dot (span : Span)
  | assertion (span : Span) (kind : Assertion)
  | short (span : Span) (negated : Bool) (kind : ShortClass)
  | property (span : Span) (name : List Char)
  | brackets (span : Span) (negated : Bool) (inner : ClassTree)
  | repetition (span : Span) (least : Nat) (most : Option Nat)
      (reluctant : Bool) (inner : Tree)
  | group (span : Span) (captures : Bool) (flags : List FlagItem)
      (inner : Tree)
  | alternation (span : Span) (branches : List Tree)
  | concat (span : Span) (parts : List Tree)
deriving Repr, Inhabited

/-- The part that a tree was read from. -/
def Tree.span : Tree → Span
  | empty span => span
  | flags span _ => span
  | literal l => l.span
  | dot span => span
  | assertion span _ => span
  | short span _ _ => span
  | property span _ => span
  | brackets span _ _ => span
  | repetition span _ _ _ _ => span
  | group span _ _ _ => span
  | alternation span _ => span
  | concat span _ => span

/-- What one character or one escape writes. -/
inductive Primitive where
  | literal (literal : Literal)
  | dot (span : Span)
  | assertion (span : Span) (kind : Assertion)
  | short (span : Span) (negated : Bool) (kind : ShortClass)
  | property (span : Span) (name : List Char)
deriving Repr, Inhabited

/-- The part that a primitive was read from. -/
def Primitive.span : Primitive → Span
  | literal l => l.span
  | dot span => span
  | assertion span _ => span
  | short span _ _ => span
  | property span _ => span

/-- A primitive as a pattern. -/
def Primitive.tree : Primitive → Tree
  | literal l => .literal l
  | dot span => .dot span
  | assertion span kind => .assertion span kind
  | short span negated kind => .short span negated kind
  | property span name => .property span name

end LinkOrder.Regex
