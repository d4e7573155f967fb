/-
Object files, the unit in which a linker takes in code. A link map names
them by a descriptor: the path of a file, or the path of a static library
with the member in parentheses behind it. Of an object file its path and
the last names of library and file are kept; its display form,
`library(file)`, is a descriptor again.
-/
import LinkOrder.Path

namespace LinkOrder

/-- An object file: the path where it, or the library that holds it, was
found, its last name, and the last name of that library. -/
structure ObjectFile where
  path : String
  file : String
  library : Option String
deriving DecidableEq, Hashable, Repr, Inhabited

namespace ObjectFile

/-- The object file at a path, or the member of that name of the library
at a path. -/
def ofPath (file : String) (library : Option String) : ObjectFile where
  path := library.getD file
  file := Path.baseName file
  library := library.map Path.baseName

/-- A descriptor of the form `library(member)`, taken apart at its last
opening parenthesis. -/
def member? (descriptor : List Char) : Option (List Char × List Char) :=
  match descriptor.reverse with
  | ')' :: body => Text.cutLast '(' body.reverse
  | _ => none

/-- The object file that a descriptor names. -/
def ofDescriptor (descriptor : String) : ObjectFile :=
  match member? descriptor.toList with
  | some (library, file) =>
      ofPath (String.ofList file) (some (String.ofList library))
  | none => ofPath descriptor none

/-- The `file.o` form by which a linker tells apart symbols of one name.
Object files that are not called so have none. -/
def qualifier? (object : ObjectFile) : Option String :=
  if ".o".toList.isSuffixOf object.file.toList then some object.file
  else none

/-- How an object file is shown. -/
def display (object : ObjectFile) : String :=
  match object.library with
  | some library => library ++ "(" ++ object.file ++ ")"
  | none => object.file

-- ================================================================ laws

/-- A descriptor splits only where no `(` follows, so in at most one way. -/
theorem member?_eq_some_iff {descriptor library file : List Char} :
    member? descriptor = some (library, file)
      ↔ descriptor = library ++ '(' :: file ++ [')'] ∧ '(' ∉ file := by
  unfold member?
  split
  · next body h =>
      rw [Text.cutLast_eq_some_iff]
      have hd : descriptor = body.reverse ++ [')'] := by
        rw [← List.reverse_reverse descriptor, h]
        simp
      rw [hd, List.append_left_inj]
  · next h =>
      constructor
      · intro hn; cases hn
      · rintro ⟨rfl, -⟩
        exact absurd (by simp) (h (library ++ '(' :: file).reverse)

end ObjectFile

end LinkOrder
