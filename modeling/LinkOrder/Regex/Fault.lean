/-
What is wrong with a pattern, and where. A report shows the pattern with
the part at fault underlined, and with it the earlier part that it clashes
with, if there is one. A pattern of several lines is shown between rules,
with numbered lines; a part that runs over several lines is named instead
of underlined.
-/
import LinkOrder.Regex.Place
import LinkOrder.Text.Line

namespace LinkOrder.Regex

/-- What is wrong with a pattern. -/
inductive Reason where
  | classEscapeInvalid
  | classRangeInvalid
  | classRangeLiteral
  | classUnclosed
  | decimalInvalid
  | hexEmpty
  | hexInvalid
  | hexDigitInvalid
  | escapeUnfinished
  | escapeUnknown
  | flagNegationDangling
  | flagDuplicate
  | flagNegationRepeated
  | flagsUnfinished
  | flagUnknown
  | groupNameDuplicate
  | groupNameEmpty
  | groupNameInvalid
  | groupNameUnclosed
  | groupUnclosed
  | groupUnopened
  | nestedTooDeep (limit : Nat)
  | countRangeInvalid
  | countEmpty
  | countUnclosed
  | repetitionOfNothing
  | wordBoundaryUnclosed
  | wordBoundaryUnknown
  | wordBoundaryUnfinished
  | propertyInvalid
  | backreference
  | lookAround
  | unicodeNotAllowed
  | notUtf8
  | propertyNotFound
  | propertyValueNotFound
  | unicodeClassNotFound
  | unicodeCaseUnavailable
deriving DecidableEq, Repr

/-- The wording of a reason. -/
def Reason.message : Reason → String
  | classEscapeInvalid =>
      "invalid escape sequence found in character class"
  | classRangeInvalid =>
      "invalid character class range, the start must be <= the end"
  | classRangeLiteral => "invalid range boundary, must be a literal"
  | classUnclosed => "unclosed character class"
  | decimalInvalid => "decimal literal invalid"
  | hexEmpty => "hexadecimal literal empty"
  | hexInvalid => "hexadecimal literal is not a Unicode scalar value"
  | hexDigitInvalid => "invalid hexadecimal digit"
  | escapeUnfinished =>
      "incomplete escape sequence, reached end of pattern prematurely"
  | escapeUnknown => "unrecognized escape sequence"
  | flagNegationDangling => "dangling flag negation operator"
  | flagDuplicate => "duplicate flag"
  | flagNegationRepeated => "flag negation operator repeated"
  | flagsUnfinished => "expected flag but got end of regex"
  | flagUnknown => "unrecognized flag"
  | groupNameDuplicate => "duplicate capture group name"
  | groupNameEmpty => "empty capture group name"
  | groupNameInvalid => "invalid capture group character"
  | groupNameUnclosed => "unclosed capture group name"
  | groupUnclosed => "unclosed group"
  | groupUnopened => "unopened group"
  | nestedTooDeep limit =>
      "exceed the maximum number of nested parentheses/brackets ("
        ++ toString limit ++ ")"
  | countRangeInvalid =>
      "invalid repetition count range, the start must be <= the end"
  | countEmpty => "repetition quantifier expects a valid decimal"
  | countUnclosed => "unclosed counted repetition"
  | repetitionOfNothing => "repetition operator missing expression"
  | wordBoundaryUnclosed =>
      "special word boundary assertion is either unclosed or contains an "
        ++ "invalid character"
  | wordBoundaryUnknown =>
      "unrecognized special word boundary assertion, valid choices are: "
        ++ "start, end, start-half or end-half"
  | wordBoundaryUnfinished =>
      "found either the beginning of a special word boundary or a bounded "
        ++ "repetition on a \\b with an opening brace, but no closing brace"
  | propertyInvalid => "invalid Unicode character class"
  | backreference => "backreferences are not supported"
  | lookAround =>
      "look-around, including look-ahead and look-behind, is not supported"
  | unicodeNotAllowed => "Unicode not allowed here"
  | notUtf8 => "pattern can match invalid UTF-8"
  | propertyNotFound => "Unicode property not found"
  | propertyValueNotFound => "Unicode property value not found"
  | unicodeClassNotFound =>
      "Unicode-aware Perl class not found (make sure the unicode-perl "
        ++ "feature is enabled)"
  | unicodeCaseUnavailable =>
      "Unicode-aware case insensitivity matching is not available (make "
        ++ "sure the unicode-case feature is enabled)"

/-- Something wrong with a part of a pattern, and the earlier part that it
clashes with, if that is what is wrong. -/
structure Fault where
  reason : Reason
  span : Span
  earlier : Option Span := none
deriving DecidableEq, Repr

-- ============================================================= reports

/-- A row of one character. -/
def row (length : Nat) (c : Char) : String :=
  String.ofList (List.replicate length c)

/-- The marks under a line up to `column`, and on under further parts. -/
def underline : (column : Nat) → List Span → String
  | _, [] => ""
  | column, span :: spans =>
      let start := max column span.first.column
      let length := max 1 (span.stop.column - span.first.column)
      row (start - column) ' ' ++ row length '^'
        ++ underline (start + length) spans

/-- The lines of a pattern, each behind its number if numbers have a
width, and each with the marks under it. -/
def annotate (width : Nat) (spans : List Span) :
    (number : Nat) → List (List Char) → String
  | _, [] => ""
  | number, line :: lines =>
      let digits := toString number
      let label :=
        if width = 0 then row 4 ' '
        else row (width - digits.length) ' ' ++ digits ++ ": "
      let marked := spans.filter (·.first.line = number)
      let marks :=
        if marked = [] then ""
        else row label.length ' ' ++ underline 1 marked ++ "\n"
      label ++ String.ofList line ++ "\n" ++ marks
        ++ annotate width spans (number + 1) lines

/-- The name of a part that runs over several lines. -/
def Span.name (span : Span) : String :=
  "on line " ++ toString span.first.line ++ " (column "
    ++ toString span.first.column ++ ") through line "
    ++ toString span.stop.line ++ " (column "
    ++ toString (span.stop.column - 1) ++ ")"

/-- What a fault says of the pattern in which it was found. -/
def Fault.report (fault : Fault) (pattern : List Char) : String :=
  let spans :=
    (fault.span :: fault.earlier.toList).mergeSort fun a b => a.atMost b
  let (short, long) := spans.partition Span.isOneLine
  let lines := Text.lines pattern
  let count := lines.length
    + (if pattern.getLast? = some '\n' then 1 else 0)
  let width := if count ≤ 1 then 0 else (toString count).length
  let shown := annotate width short 1 lines
  let body :=
    if pattern.contains '\n' then
      let rule := row 79 '~' ++ "\n"
      let names :=
        if long = [] then ""
        else String.intercalate "\n" (long.map Span.name) ++ "\n"
      rule ++ shown ++ rule ++ names
    else shown
  "regex parse error:\n" ++ body ++ "error: " ++ fault.reason.message

end LinkOrder.Regex
