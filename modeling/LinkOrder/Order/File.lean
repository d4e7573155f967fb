/-
Order files: one entry a line, the symbols that were observed first, a
separator, and then all others. Entries are written as they are. The text
of a file is that of all lines, each with a newline behind it, and what is
saved line by line are the bytes of that text (`bytes_eq`).
-/
import LinkOrder.Text.Utf8

namespace LinkOrder

/-- The entries of an order file, before and behind the separator. -/
structure OrderFile where
  observed : List String
  remaining : List String
deriving DecidableEq, Repr, Inhabited

namespace OrderFile

/-- The line between the two kinds of entries. -/
def separator : String := "# begin remaining symbol"

/-- All lines. -/
def lines (file : OrderFile) : List String :=
  file.observed ++ separator :: file.remaining

/-- The number of entries. -/
def size (file : OrderFile) : Nat :=
  file.observed.length + file.remaining.length

/-- Whether there are no entries. -/
def isEmpty (file : OrderFile) : Bool := file.size = 0

/-- The text of the file. -/
def text (file : OrderFile) : String :=
  String.ofList (file.lines.flatMap fun line => line.toList ++ ['\n'])

/-- What is written of the file, one line behind the other. -/
def bytes (file : OrderFile) : List UInt8 :=
  file.lines.flatMap fun line => Utf8.encode (line.toList ++ ['\n'])

-- ================================================================ laws

/-- What is saved is the encoding of what is shown. The two are built
apart, lines first or bytes first, so this has to be proved. -/
theorem bytes_eq (file : OrderFile) :
    file.bytes = Utf8.encode file.text.toList := by
  rw [text, String.toList_ofList, Utf8.encode, List.flatMap_assoc]
  rfl

end OrderFile

end LinkOrder
