/-
File paths as text: their segments, their last name, and the path that
holds them. A path is a row of names between slashes; empty segments and
`.` say nothing. A path whose last segment that says something is `..`, or
that has none, has no last name.
-/
import LinkOrder.Text.Cut

namespace LinkOrder.Path

/-- Whether a segment says nothing. -/
def isSilent (segment : List Char) : Bool :=
  segment = [] || segment = ['.']

/-- The segments that say something: all but the empty ones and `.`. -/
def segments (path : List Char) : List (List Char) :=
  (Text.pieces '/' path).filter fun segment => !isSilent segment

/-- The last name of a path. -/
def fileName? (path : List Char) : Option (List Char) :=
  match (segments path).getLast? with
  | some s => if s = ['.', '.'] then none else some s
  | none => none

/-- The last name of a path, or all of a path without one. -/
def baseName (path : String) : String :=
  match fileName? path.toList with
  | some name => String.ofList name
  | none => path

/-- Whether the path starts at the root. -/
def isAbsolute (path : List Char) : Bool := path.head? = some '/'

/-- The paths that end in one of the segments, which are given from the
last to the first; those that end in a silent one are left out. -/
def climb : List (List Char) → List String
  | [] => []
  | segment :: above =>
      if isSilent segment then climb above
      else
        String.ofList (['/'].intercalate (segment :: above).reverse)
          :: climb above

/-- A path, the one of the directory that holds what it leads to, and so
on, up to the root or the working directory, which are left out. -/
def ancestors (path : String) : List String :=
  climb (Text.pieces '/' path.toList).reverse

/-- The path of the directory that holds what a path leads to. It is empty
where that is the root or the working directory. -/
def parent (path : String) : String := ((ancestors path).drop 1).headD ""

end LinkOrder.Path
