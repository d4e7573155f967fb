/-
A file system as a value: what stands at which place, a place being the
row of names that leads to it from the root. Paths are walked from the
root or from the working directory, one segment after the other; every
segment, `.` and the empty one behind a final slash included, asks for a
directory to stand where it starts. Names and paths may not be longer than
a machine takes them, and hold no NUL.
-/
import LinkOrder.Storage.Host

namespace LinkOrder.Storage

/-- The names that lead from the root to a place. -/
abbrev Place := List String

/-- What stands at a place. -/
inductive Node where
  | directory
  | file (contents : List UInt8)
deriving DecidableEq, Repr, Inhabited

/-- Files and directories by their places, and the working directory. -/
structure FileSystem where
  nodes : List (Place × Node)
  workingDirectory : Place
deriving DecidableEq, Repr, Inhabited

namespace FileSystem

/-- What stands at a place. The root is always there. -/
def node? (fs : FileSystem) (place : Place) : Option Node :=
  if place = [] then some .directory else fs.nodes.lookup place

/-- Puts something at a place. -/
def put (fs : FileSystem) (place : Place) (node : Node) : FileSystem :=
  { fs with
    nodes := (place, node) :: fs.nodes.filter fun entry => entry.1 ≠ place }

-- =============================================================== paths

/-- Where the walk along a path starts. -/
def origin (fs : FileSystem) (path : List Char) : Place :=
  if Path.isAbsolute path then [] else fs.workingDirectory

/-- The place to which a segment leads. -/
def follow (place : Place) (segment : List Char) : Place :=
  if segment = [] || segment = ['.'] then place
  else if segment = ['.', '.'] then place.dropLast
  else place ++ [String.ofList segment]

/-- The greatest length of a name in bytes. -/
def nameLimit : Nat := 255

/-- The length in bytes from which on a path is too long. -/
def pathLimit : Nat := 4096

/-- The segments of a path that can be followed at all. -/
def segmentsOf (path : String) : Except Failure (List (List Char)) :=
  if path.toList.contains '\x00' then .error .nulInName
  else if path = "" then .error .notFound
  else if pathLimit ≤ path.utf8ByteSize then .error .nameTooLong
  else .ok (Text.pieces '/' path.toList)

/-- Succeeds where a directory stands. -/
def demandDirectory (fs : FileSystem) (place : Place) :
    Except Failure Unit :=
  match fs.node? place with
  | some .directory => .ok ()
  | some (.file _) => .error .notDirectory
  | none => .error .notFound

/-- The place to which a segment leads from a directory. -/
def step (fs : FileSystem) (place : Place) (segment : List Char) :
    Except Failure Place :=
  match fs.demandDirectory place with
  | .error failure => .error failure
  | .ok () =>
      if nameLimit < (String.ofList segment).utf8ByteSize then
        .error .nameTooLong
      else .ok (follow place segment)

/-- The place at the end of a walk. -/
def walk (fs : FileSystem) (place : Place) :
    List (List Char) → Except Failure Place
  | [] => .ok place
  | segment :: rest =>
      match fs.step place segment with
      | .error failure => .error failure
      | .ok next => walk fs next rest

/-- What stands at a path, and where. -/
def locate (fs : FileSystem) (path : String) :
    Except Failure (Place × Node) :=
  match segmentsOf path with
  | .error failure => .error failure
  | .ok segments =>
      match fs.walk (fs.origin path.toList) segments with
      | .error failure => .error failure
      | .ok place =>
          match fs.node? place with
          | some node => .ok (place, node)
          | none => .error .notFound

-- ============================================================ requests

/-- What stands at a path, if anything does. -/
def kind? (fs : FileSystem) (path : String) : Option Kind :=
  match fs.locate path with
  | .ok (_, .directory) => some .directory
  | .ok (_, .file _) => some .file
  | .error _ => none

/-- The contents of a file. -/
def read (fs : FileSystem) (path : String) :
    Except Failure (List UInt8) :=
  match fs.locate path with
  | .ok (_, .file contents) => .ok contents
  | .ok (_, .directory) => .error .isDirectory
  | .error failure => .error failure

/-- The directory and the name to which a path leads, the name being
`none` if the path ends at a directory for certain (the root, `.` or
`..`), and whether slashes follow the name. -/
def ending (fs : FileSystem) (path : String) :
    Except Failure (Place × Option (List Char) × Bool) :=
  match segmentsOf path with
  | .error failure => .error failure
  | .ok segments =>
      let bare := segments.reverse.dropWhile (· = [])
      let above := fs.walk (fs.origin path.toList) bare.tail.reverse
      match above with
      | .error failure => .error failure
      | .ok place =>
          match fs.demandDirectory place with
          | .error failure => .error failure
          | .ok () =>
              let name? := bare.head?.filter fun name =>
                name ≠ ['.'] && name ≠ ['.', '.']
              .ok (place, name?, bare.length < segments.length)

/-- The place at which a file that is written to stands or is made. A
path that ends in a slash, or in a segment that only a directory can
have, names no file. -/
def target (fs : FileSystem) (path : String) : Except Failure Place :=
  match fs.ending path with
  | .error failure => .error failure
  | .ok (_, none, _) => .error .isDirectory
  | .ok (_, some _, true) => .error .isDirectory
  | .ok (place, some name, false) =>
      match fs.step place name with
      | .error failure => .error failure
      | .ok place =>
          if fs.node? place = some .directory then .error .isDirectory
          else .ok place

/-- The place at which a directory can be made. -/
def vacancy (fs : FileSystem) (path : String) : Except Failure Place :=
  match fs.ending path with
  | .error failure => .error failure
  | .ok (_, none, _) => .error .alreadyExists
  | .ok (place, some name, _) =>
      match fs.step place name with
      | .error failure => .error failure
      | .ok place =>
          match fs.node? place with
          | some _ => .error .alreadyExists
          | none => .ok place

/-- Gives a file new contents. -/
def write (fs : FileSystem) (path : String) (contents : List UInt8) :
    Except Failure Unit × FileSystem :=
  match fs.target path with
  | .error failure => (.error failure, fs)
  | .ok place => (.ok (), fs.put place (.file contents))

/-- Adds to the end of a file. -/
def append (fs : FileSystem) (path : String) (contents : List UInt8) :
    Except Failure Unit × FileSystem :=
  match fs.target path with
  | .error failure => (.error failure, fs)
  | .ok place =>
      match fs.node? place with
      | some (.file before) =>
          (.ok (), fs.put place (.file (before ++ contents)))
      | _ => (.ok (), fs.put place (.file contents))

/-- Makes a directory where nothing stands yet. -/
def makeDirectory (fs : FileSystem) (path : String) :
    Except Failure Unit × FileSystem :=
  match fs.vacancy path with
  | .error failure => (.error failure, fs)
  | .ok place => (.ok (), fs.put place .directory)

end FileSystem

end LinkOrder.Storage
