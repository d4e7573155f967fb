/-
What single lines of a link map say. A link map has parts, each announced
by a marker line: the object files, the sections, and the symbols. Lines
are read leniently, a field that cannot be read counting as zero wherever
that is possible; what a symbol line amounts to, short of the bounds of
the text section, is settled here.
-/
import LinkOrder.LinkMap.Table
import LinkOrder.Numeral.Hex

namespace LinkOrder.LinkMap

/-- The parts of a link map, in the order in which linkers write them. -/
inductive Part where
  | preamble
  | objectFiles
  | sections
  | symbols
deriving DecidableEq, Repr, Inhabited

namespace Part

/-- The place of a part among the others. -/
def rank : Part → Nat
  | preamble => 0
  | objectFiles => 1
  | sections => 2
  | symbols => 3

/-- The name of a part in records. -/
def name : Part → String
  | preamble => "Preamble"
  | objectFiles => "ObjectFiles"
  | sections => "Sections"
  | symbols => "Symbols"

/-- What announces the object files. -/
def objectFilesMarker : List Char := "# Object files:".toList

/-- What announces the sections. -/
def sectionsMarker : List Char := "# Sections:".toList

/-- What announces the symbols. -/
def symbolsMarker : List Char := "# Symbols:".toList

/-- The part that a line announces, wherever in the line the marker
stands. Of several markers the one of the latest part counts. -/
def announced? (line : List Char) : Option Part :=
  if Text.occurs symbolsMarker line then some symbols
  else if Text.occurs sectionsMarker line then some sections
  else if Text.occurs objectFilesMarker line then some objectFiles
  else none

end Part

-- ============================================================== fields

/-- A line cut at its first two tabs; what follows is one field, whatever
further tabs it has. -/
def threeFields? (line : List Char) :
    Option (List Char × List Char × List Char) :=
  match Text.cut '\t' line with
  | some (first, rest) =>
      match Text.cut '\t' rest with
      | some (second, third) => some (first, second, third)
      | none => none
  | none => none

/-- The index in a pair of brackets, blanks around it aside. -/
def readIndex? (text : List Char) : Option UInt64 :=
  Numeral.Base.decimal.read? (Text.trim text)

-- ======================================================== object files

/-- An object file line: the index it claims, if that can be read, and
the object file. -/
structure ObjectLine where
  index : Option UInt64
  object : ObjectFile
deriving DecidableEq, Repr

/-- A line of the object files. Whatever has a closing bracket is one. -/
def ObjectLine.read? (line : List Char) : Option ObjectLine :=
  match Text.cut ']' line with
  | some (head, descriptor) =>
      some
        { index :=
            match head with
            | '[' :: digits => readIndex? digits
            | _ => none
          object := .ofDescriptor
            (String.ofList (Text.trimStart descriptor)) }
  | none => none

-- ============================================================ sections

/-- What a row of the text section contains. -/
def textSectionMarker : List Char := "__TEXT\t__text".toList

/-- The bounds in a row of the sections, if it is one of the text
section. A number that cannot be read counts as zero. -/
def textBounds? (line : List Char) : Option Bounds :=
  if Text.occurs textSectionMarker line then
    match threeFields? line with
    | some (start, size, _) =>
        some
          ⟨(Numeral.readHex? start).getD 0, (Numeral.readHex? size).getD 0⟩
    | none => none
  else none

-- ============================================================= symbols

/-- What a line of the symbols amounts to. -/
inductive SymbolLine where
  /-- No symbol line at all. -/
  | other
  /-- Too few fields. -/
  | short
  /-- An address that cannot be read. -/
  | badAddress
  /-- An index without an object file. -/
  | unknownObject (name : String) (index : Nat)
  /-- A symbol without size, or one that may not be ordered. -/
  | filtered
  /-- A symbol to record, should its address lie in the text section. -/
  | recordable (address : UInt64) (symbol : Symbol)
deriving DecidableEq, Repr

/-- The last field of a symbol line: the index of an object file in
brackets, and a name. Without an index that can be read it is that of the
first object file; without brackets all of the field is the name. -/
def splitReference (field : List Char) : Nat × List Char :=
  match field with
  | '[' :: rest =>
      match Text.cutAt [']', ' '] rest with
      | some (index, name) =>
          (((readIndex? index).getD 0).toNat, name)
      | none => (0, field)
  | _ => (0, field)

/-- Reads a line of the symbols, given the object files listed before. -/
def SymbolLine.read (rule : Eligibility) (objects : Array ObjectFile)
    (line : List Char) : SymbolLine :=
  if ['0', 'x'].isPrefixOf line then
    match threeFields? line with
    | none => short
    | some (addressField, sizeField, reference) =>
        match Numeral.readHex? addressField with
        | none => badAddress
        | some address =>
            let size := (Numeral.readHex? sizeField).getD 0
            let (index, name) := splitReference reference
            match objects[index]? with
            | none => unknownObject (String.ofList name) index
            | some object =>
                let symbol : Symbol := ⟨String.ofList name, object⟩
                if size = 0 || !rule.admits symbol then filtered
                else recordable address symbol
  else other

end LinkOrder.LinkMap
