/-
The surroundings of a run as a value: the files, the time, and what has
been printed. On surroundings a run is a function from what was there
before it to its result and what is there after it. Time stands still.
-/
import LinkOrder.Storage.FileSystem

namespace LinkOrder

/-- Files, time, and what has been printed so far. -/
structure Surroundings where
  files : Storage.FileSystem
  moment : Nat := 0
  epoch : Duration := ⟨0, 0⟩
  output : String := ""
  complaints : String := ""
deriving Repr, Inhabited

/-- A run on surroundings. -/
abbrev Simulation := StateM Surroundings

namespace Simulation

/-- A request that may change the files. -/
def changeFiles {α : Type}
    (request : Storage.FileSystem → α × Storage.FileSystem) :
    Simulation α := fun s =>
  let (answer, files) := request s.files
  (answer, { s with files := files })

instance : Host Simulation where
  kind? path := fun s => (s.files.kind? path, s)
  read path := fun s => (s.files.read path, s)
  write path contents := changeFiles (·.write path contents)
  append path contents := changeFiles (·.append path contents)
  makeDirectory path := changeFiles (·.makeDirectory path)
  now := fun s => (s.moment, s)
  epoch := fun s => (s.epoch, s)
  print text := fun s => ((), { s with output := s.output ++ text })
  complain text := fun s =>
    ((), { s with complaints := s.complaints ++ text })

end Simulation

end LinkOrder
