/-
Symbols and which of them may be ordered. A symbol is a name together
with the object file that defines it; symbols of one name from different
object files are different symbols. Local and outlined symbols have no
place in an order file, and neither have those of excluded libraries.
-/
import LinkOrder.Object

namespace LinkOrder

/-- A compiled symbol and the object file that defines it. -/
structure Symbol where
  name : String
  object : ObjectFile
deriving DecidableEq, Hashable, Repr, Inhabited

namespace Symbol

/-- What the names of local symbols start with. -/
def localMark : List Char := ['l']

/-- What the names of outlined functions contain. -/
def outlinedMark : List Char := "_OUTLINED_".toList

/-- Whether the symbol is visible in its own object file only. -/
def isLocal (symbol : Symbol) : Bool :=
  localMark.isPrefixOf symbol.name.toList

/-- Whether the symbol is a function that the compiler split off. -/
def isOutlined (symbol : Symbol) : Bool :=
  Text.occurs outlinedMark symbol.name.toList

/-- The name with the object file's `file.o:` in front, where the object
file has such a form. -/
def qualifiedName (symbol : Symbol) : String :=
  match symbol.object.qualifier? with
  | some file => file ++ ":" ++ symbol.name
  | none => symbol.name

/-- How a symbol is shown. -/
def display (symbol : Symbol) : String :=
  symbol.name ++ " (" ++ symbol.object.display ++ ")"

end Symbol

/-- Which symbols may be ordered: all but local and outlined ones and
those of libraries whose names start in one of the excluded ways. -/
structure Eligibility where
  excludedLibraries : List String
deriving DecidableEq, Repr, Inhabited

namespace Eligibility

/-- Excludes no library. -/
def permissive : Eligibility := ⟨[]⟩

/-- Whether the object file comes from an excluded library. -/
def excludes (rule : Eligibility) (object : ObjectFile) : Bool :=
  match object.library with
  | some library =>
      rule.excludedLibraries.any fun start =>
        start.toList.isPrefixOf library.toList
  | none => false

/-- Whether the symbol may be ordered. -/
def admits (rule : Eligibility) (symbol : Symbol) : Bool :=
  !symbol.isLocal && !symbol.isOutlined && !rule.excludes symbol.object

end Eligibility

end LinkOrder
