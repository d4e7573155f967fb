/-
Escapes: what a backslash and the characters behind it write. Outside and
inside of brackets they are read alike; whether an escape has a place
there is for the bracket to say.
-/
import LinkOrder.Numeral.Unsigned
import LinkOrder.Regex.Cursor
import LinkOrder.Regex.Tree

namespace LinkOrder.Regex

open Numeral (decimalDigit? hexDigit? Base)
open Reading

/-- The characters that have a meaning in patterns. -/
def isMark (c : Char) : Bool :=
  "\\.+*?()|[]\x7b\x7d^$#&-~".toList.contains c

/-- Whether a backslash before the character leaves it as it is. Letters
and digits are kept for other escapes, and so are the angles. -/
def standsForItself (c : Char) : Bool :=
  isMark c || (c.toNat < 0x80 && !c.isAlphanum && c ≠ '<' && c ≠ '>')

/-- The control character that a letter stands for. -/
def controlOf? (c : Char) : Option Char :=
  match c with
  | 'a' => some '\x07'
  | 'f' => some '\x0c'
  | 't' => some '\t'
  | 'n' => some '\n'
  | 'r' => some '\r'
  | 'v' => some '\x0b'
  | _ => none

/-- The assertion that a character stands for. -/
def assertionOf? (c : Char) : Option Assertion :=
  match c with
  | 'A' => some .textStart
  | 'z' => some .textEnd
  | 'b' => some .wordBoundary
  | 'B' => some .noWordBoundary
  | '<' => some .wordStart
  | '>' => some .wordEnd
  | _ => none

/-- The class that a letter stands for, and whether it is negated. -/
def shortClassOf? (c : Char) : Option (Bool × ShortClass) :=
  match c with
  | 'd' => some (false, .digit)
  | 'D' => some (true, .digit)
  | 's' => some (false, .space)
  | 'S' => some (true, .space)
  | 'w' => some (false, .word)
  | 'W' => some (true, .word)
  | _ => none

-- ============================================================ by number

/-- The character with a number in hexadecimal digits. -/
def charOf? (digits : List Char) : Option Char :=
  match Base.hexadecimal.valueFrom? 0 digits with
  | some value =>
      if value.isValidChar then some (Char.ofNat value) else none
  | none => none

/-- A number of hexadecimal digits. -/
def readHexDigits : Nat → Reading (List Char)
  | 0 => pure []
  | n + 1 => do
      match ← rest with
      | [] => failHere .escapeUnfinished
      | c :: _ =>
          if (hexDigit? c).isNone then failNext .hexDigitInvalid
          else
            advance
            return c :: (← readHexDigits n)

/-- A character by its number in braces, of which the first comes next. -/
def readBracedHex : Reading (Char × Span) := do
  let brace ← here
  let start := (← nextSpan).stop
  advance
  let digits ← takeRun fun c => (hexDigit? c).isSome
  match ← rest with
  | [] => fail .escapeUnfinished (← since brace)
  | '\x7d' :: _ =>
      let digitSpan ← since start
      advance
      if digits = [] then fail .hexEmpty (← since brace)
      else
        match charOf? digits with
        | some c => return (c, ← since start)
        | none => fail .hexInvalid digitSpan
  | _ => failNext .hexDigitInvalid

/-- A character by its number, of which the letter that announces it comes
next. The span starts at the backslash. -/
def readHex (backslash : Place) (count : Nat) : Reading Literal := do
  advance
  match ← rest with
  | [] => failHere .escapeUnfinished
  | '\x7b' :: _ =>
      let (c, span) ← readBracedHex
      return { span := ⟨backslash, span.stop⟩, char := c }
  | _ =>
      let start ← here
      let digits ← readHexDigits count
      match charOf? digits with
      | some c =>
          return { span := ← since backslash, char := c, isByte := count = 2 }
      | none => fail .hexInvalid (← since start)

-- =========================================================== properties

/-- A class by a property, of which the letter that announces it comes
next. -/
def readProperty (backslash : Place) : Reading Primitive := do
  advance
  match ← rest with
  | [] => failHere .escapeUnfinished
  | '\x7b' :: _ =>
      advance
      let name ← takeRun fun c => c ≠ '\x7d'
      if ← atEnd then failHere .escapeUnfinished
      else
        next
        return .property (← since backslash) name
  | '\\' :: _ => failNext .propertyInvalid
  | c :: _ =>
      advance
      return .property (← since backslash) [c]

-- ====================================================== word boundaries

/-- The characters in the names of word boundaries. -/
def isBoundaryLetter (c : Char) : Bool := c.isAlpha || c = '-'

/-- The word boundary with a name. -/
def boundaryOf? (name : List Char) : Option Assertion :=
  match String.ofList name with
  | "start" => some .wordStart
  | "end" => some .wordEnd
  | "start-half" => some .wordStartHalf
  | "end-half" => some .wordEndHalf
  | _ => none

/-- The name of a word boundary in braces, of which the first comes next.
Where no name follows it, the brace starts a count, and nothing is read. -/
def readBoundaryName? (backslash : Place) : Reading (Option Assertion) := do
  let before ← get
  advance
  let start ← here
  match ← rest with
  | [] => fail .wordBoundaryUnfinished (← since backslash)
  | c :: _ =>
      if !isBoundaryLetter c then
        set before
        return none
      else
        let name ← takeRun isBoundaryLetter
        match ← rest with
        | '\x7d' :: _ =>
            let span ← since start
            next
            match boundaryOf? name with
            | some kind => return some kind
            | none => fail .wordBoundaryUnknown span
        | _ => fail .wordBoundaryUnclosed (← since before.place)

/-- An assertion of which the escape has been read. A plain word boundary
may be followed by the name of a special one. -/
def readBoundary (backslash : Place) (kind : Assertion) :
    Reading Primitive := do
  let span ← since backslash
  match kind, ← rest with
  | .wordBoundary, '\x7b' :: _ =>
      match ← readBoundaryName? backslash with
      | some special => return .assertion (← since backslash) special
      | none => return .assertion span kind
  | _, _ => return .assertion span kind

-- ============================================================== escapes

/-- What an escape of one character writes, which has been read. -/
def readShortEscape (backslash : Place) (c : Char) :
    Reading Primitive := do
  let span ← since backslash
  if standsForItself c then return .literal { span := span, char := c }
  match shortClassOf? c, controlOf? c, assertionOf? c with
  | some (negated, kind), _, _ => return .short span negated kind
  | none, some control, _ =>
      return .literal { span := span, char := control }
  | none, none, some kind => readBoundary backslash kind
  | none, none, none => fail .escapeUnknown span

/-- An escape, of which the backslash comes next. -/
def readEscape : Reading Primitive := do
  let backslash ← here
  next
  match ← rest with
  | [] => fail .escapeUnfinished (← since backslash)
  | c :: _ =>
      if (decimalDigit? c).isSome then
        fail .backreference ⟨backslash, (← nextSpan).stop⟩
      else
        match c with
        | 'x' => return .literal (← readHex backslash 2)
        | 'u' => return .literal (← readHex backslash 4)
        | 'U' => return .literal (← readHex backslash 8)
        | 'p' | 'P' => readProperty backslash
        | _ =>
            next
            readShortEscape backslash c

/-- What the next character writes, or the escape that it starts. -/
def readPrimitive : Reading Primitive := do
  match ← rest with
  | '\\' :: _ => readEscape
  | c :: _ =>
      let span ← nextSpan
      next
      match c with
      | '.' => return .dot span
      | '^' => return .assertion span .lineStart
      | '$' => return .assertion span .lineEnd
      | _ => return .literal { span := span, char := c }
  | [] => failHere .escapeUnfinished

end LinkOrder.Regex
