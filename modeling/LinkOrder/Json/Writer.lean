/-
Values written as JSON in the compact form: no blanks, members in a fixed
order, whole numbers in decimal. In strings quotes, backslashes and
controls are escaped and every other character stands for itself.
-/

namespace LinkOrder.Json

/-- One character inside a written string. -/
def writeChar (c : Char) : List Char :=
  match c with
  | '"' => ['\\', '"']
  | '\\' => ['\\', '\\']
  | '\x08' => ['\\', 'b']
  | '\x0c' => ['\\', 'f']
  | '\n' => ['\\', 'n']
  | '\r' => ['\\', 'r']
  | '\t' => ['\\', 't']
  | c =>
      if c < ' ' then
        ['\\', 'u', '0', '0', Nat.digitChar (c.toNat / 16),
          Nat.digitChar (c.toNat % 16)]
      else [c]

/-- A string between quotes. -/
def writeString (text : String) : List Char :=
  '"' :: text.toList.flatMap writeChar ++ ['"']

/-- A whole number. -/
def writeNatural (value : UInt64) : List Char :=
  Nat.toDigits 10 value.toNat

/-- Texts with commas between them. -/
def writeJoined : List (List Char) → List Char
  | [] => []
  | [text] => text
  | text :: more => text ++ ',' :: writeJoined more

/-- A list of written values. -/
def writeList (values : List (List Char)) : List Char :=
  '[' :: writeJoined values ++ [']']

/-- An object of written values by their keys. -/
def writeObject (members : List (String × List Char)) : List Char :=
  '\x7b' :: writeJoined
    (members.map fun (key, value) => writeString key ++ ':' :: value)
    ++ ['\x7d']

end LinkOrder.Json
