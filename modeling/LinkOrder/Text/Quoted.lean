/-
Quoted text, as messages show paths and strings: between double quotes,
with a backslash before quotes and backslashes, short escapes for the
usual controls, and the code point in braces for every other character
that has no visible form of its own.
-/
import LinkOrder.Text.Unprintable

namespace LinkOrder.Text

/-- One character inside a quoted text. -/
def escaped (c : Char) : List Char :=
  match c with
  | '"' => ['\\', '"']
  | '\\' => ['\\', '\\']
  | '\n' => ['\\', 'n']
  | '\r' => ['\\', 'r']
  | '\t' => ['\\', 't']
  | '\x00' => ['\\', '0']
  | c =>
      if isUnprintable c then
        ['\\', 'u', '\x7b'] ++ Nat.toDigits 16 c.toNat ++ ['\x7d']
      else [c]

/-- The text between quotes. -/
def quoted (text : String) : String :=
  String.ofList ('"' :: text.toList.flatMap escaped ++ ['"'])

end LinkOrder.Text
