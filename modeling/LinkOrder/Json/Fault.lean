/-
Why a JSON text is refused, and where. A fault is a reason with a place
in the text, counted by the bytes that are left there; reasons that
concern a whole value get their place only when the innermost value
around them has been left. Reports name lines from one and columns by the
bytes read of a line.
-/
import LinkOrder.Numeral.Shortest
import LinkOrder.Text.Quoted

namespace LinkOrder.Json

open Numeral (Binary64)

/-- What was found where another type of value was expected. -/
inductive Found where
  | null
  | boolean (value : Bool)
  | natural (value : UInt64)
  | negative (value : Int)
  | real (minus : Bool) (value : Binary64)
  | string (value : String)
  | sequence
  | map
deriving DecidableEq, Repr

/-- How a found value is named. -/
def Found.describe : Found → String
  | null => "null"
  | boolean value => "boolean `" ++ toString value ++ "`"
  | natural value => "integer `" ++ toString value.toNat ++ "`"
  | negative value => "integer `" ++ toString value ++ "`"
  | real minus value =>
      "floating point `" ++ (if minus then "-" else "")
        ++ value.shortest.format ++ "`"
  | string value => "string " ++ Text.quoted value
  | sequence => "sequence"
  | map => "map"

/-- Why a text is refused. -/
inductive Reason where
  | listUnclosed
  | objectUnclosed
  | stringUnclosed
  | valueMissing
  | expectedColon
  | expectedListEnd
  | expectedObjectEnd
  | expectedWord
  | expectedValue
  | invalidEscape
  | invalidNumber
  | numberOutOfRange
  | controlCharacter
  | keyNotString
  | loneSurrogate
  | trailingComma
  | trailingCharacters
  | surrogateUnpaired
  | invalidType (found : Found) (expected : String)
  | invalidValue (found : Found) (expected : String)
  | invalidLength (length : Nat) (expected : String)
  | missingField (name : String)
  | duplicateField (name : String)
  | unknownVariant (name : String) (expected : String)
deriving DecidableEq, Repr

/-- The wording of a reason. -/
def Reason.message : Reason → String
  | listUnclosed => "EOF while parsing a list"
  | objectUnclosed => "EOF while parsing an object"
  | stringUnclosed => "EOF while parsing a string"
  | valueMissing => "EOF while parsing a value"
  | expectedColon => "expected `:`"
  | expectedListEnd => "expected `,` or `]`"
  | expectedObjectEnd => "expected `,` or `\x7d`"
  | expectedWord => "expected ident"
  | expectedValue => "expected value"
  | invalidEscape => "invalid escape"
  | invalidNumber => "invalid number"
  | numberOutOfRange => "number out of range"
  | controlCharacter =>
      "control character (\\u0000-\\u001F) found while parsing a string"
  | keyNotString => "key must be a string"
  | loneSurrogate => "lone leading surrogate in hex escape"
  | trailingComma => "trailing comma"
  | trailingCharacters => "trailing characters"
  | surrogateUnpaired => "unexpected end of hex escape"
  | invalidType found expected =>
      "invalid type: " ++ found.describe ++ ", expected " ++ expected
  | invalidValue found expected =>
      "invalid value: " ++ found.describe ++ ", expected " ++ expected
  | invalidLength length expected =>
      "invalid length " ++ toString length ++ ", expected " ++ expected
  | missingField name => "missing field `" ++ name ++ "`"
  | duplicateField name => "duplicate field `" ++ name ++ "`"
  | unknownVariant name expected =>
      "unknown variant `" ++ name ++ "`, expected " ++ expected

/-- A refusal while reading. -/
inductive Fault where
  /-- A reason with its place: how many bytes were left there. -/
  | placed (reason : Reason) (left : Nat)
  /-- A reason without a place yet, and the text that was left when it
  arose. -/
  | pending (reason : Reason) (rest : List Char)
deriving DecidableEq, Repr

/-- The number of bytes of a text. -/
def width : List Char → Nat
  | [] => 0
  | c :: rest => c.utf8Size + width rest

namespace Fault

/-- A fault at the start of the text that is left. -/
def here (reason : Reason) (rest : List Char) : Fault :=
  placed reason (width rest)

/-- A fault one byte into the text that is left, or at its end. -/
def next (reason : Reason) (rest : List Char) : Fault :=
  placed reason (width rest - 1)

end Fault

/-- A refused text: the reason, and the line and column of its place. -/
structure Error where
  reason : Reason
  line : Nat
  column : Nat
deriving DecidableEq, Repr

/-- How a refusal is reported. -/
def Error.message (e : Error) : String :=
  e.reason.message ++ " at line " ++ toString e.line ++ " column "
    ++ toString e.column

/-- The line and column of a byte of a text that starts at the given
ones. -/
def locate (text : List Char) (byte line column : Nat) : Nat × Nat :=
  match text with
  | [] => (line, column)
  | c :: rest =>
      if byte < c.utf8Size then (line, column + byte)
      else if c = '\n' then locate rest (byte - 1) (line + 1) 0
      else locate rest (byte - c.utf8Size) line (column + c.utf8Size)

/-- The report of a fault in a text. -/
def Fault.report (text : List Char) : Fault → Error
  | placed reason left =>
      let (line, column) := locate text (width text - left) 1 0
      ⟨reason, line, column⟩
  | pending reason rest =>
      let (line, column) := locate text (width text - width rest) 1 0
      ⟨reason, line, column⟩

end LinkOrder.Json
