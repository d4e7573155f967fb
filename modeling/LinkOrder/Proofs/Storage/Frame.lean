/-
What writing to one file leaves alone. A file is put where no directory
stands, so no walk is disturbed by it: every path leads where it led and
nowhere else (`walk_put_iff`), and what stands at its destination is what
stood there, be it nothing, unless the destination is that very file
(`stands?_put`). A path to write to keeps its target, the written file's
own path included (`target_put`).
-/
import LinkOrder.Storage.FileSystem

namespace LinkOrder.Storage.FileSystem

variable {fs : FileSystem} {place other : Place} {path : String}
  {written : List UInt8}

-- =============================================================== nodes

theorem lookup_filter_ne (nodes : List (Place × Node))
    (h : other ≠ place) :
    (nodes.filter fun entry => entry.1 ≠ place).lookup other
      = nodes.lookup other := by
  induction nodes with
  | nil => rfl
  | cons entry rest ih =>
      obtain ⟨p, node⟩ := entry
      by_cases hp : p = place
      · subst hp
        rw [List.filter_cons_of_neg (by simp), ih, List.lookup_cons,
          beq_eq_false_iff_ne.2 h]
      · rw [List.filter_cons_of_pos (by simpa using hp), List.lookup_cons,
          List.lookup_cons, ih]

/-- Elsewhere stands what stood there. -/
theorem node?_put_of_ne (node : Node) (h : other ≠ place) :
    (fs.put place node).node? other = fs.node? other := by
  unfold node? put
  rw [List.lookup_cons]
  simp only [beq_eq_false_iff_ne.2 h, lookup_filter_ne fs.nodes h]

/-- What is put stands there, the root aside. -/
theorem node?_put_self (node : Node) (h : place ≠ []) :
    (fs.put place node).node? place = some node := by
  unfold node? put
  rw [if_neg h, List.lookup_cons]
  simp

theorem node?_ne_directory_put (h : fs.node? place ≠ some .directory) :
    (fs.put place (.file written)).node? place ≠ some .directory := by
  have hroot : place ≠ [] := by
    intro heq
    obtain rfl := heq
    exact h (if_pos rfl)
  rw [node?_put_self _ hroot]
  simp

theorem demandDirectory_eq_ok_iff :
    fs.demandDirectory place = .ok () ↔ fs.node? place = some .directory := by
  unfold demandDirectory
  split <;> simp_all

/-- A segment can be followed from a directory, if it is not too long. -/
theorem step_eq_ok_iff {segment : List Char} {next : Place} :
    fs.step place segment = .ok next
      ↔ fs.demandDirectory place = .ok ()
        ∧ (String.ofList segment).utf8ByteSize ≤ nameLimit
        ∧ follow place segment = next := by
  unfold step
  cases fs.demandDirectory place with
  | error failure => simp
  | ok =>
      dsimp only
      by_cases hlong : nameLimit < (String.ofList segment).utf8ByteSize
      · simp [hlong, Nat.not_le.2 hlong]
      · simp [hlong, Nat.not_lt.1 hlong]

theorem walk_cons_eq_ok_iff {segment : List Char} {rest : List (List Char)}
    {last : Place} :
    fs.walk place (segment :: rest) = .ok last
      ↔ ∃ next, fs.step place segment = .ok next
        ∧ fs.walk next rest = .ok last := by
  rw [walk]
  cases fs.step place segment with
  | error failure => simp
  | ok next => simp

-- ======================================================== destinations

/-- The place to which a path leads, whatever stands there. -/
def destination (fs : FileSystem) (path : String) : Except Failure Place :=
  match segmentsOf path with
  | .error failure => .error failure
  | .ok segments => fs.walk (fs.origin path.toList) segments

/-- What stands at a path, if anything does. -/
def stands? (fs : FileSystem) (path : String) : Option Node :=
  match fs.destination path with
  | .error _ => none
  | .ok place => fs.node? place

/-- A path finds what is at the place where it ends. -/
theorem locate_eq_ok_iff {node : Node} :
    fs.locate path = .ok (place, node)
      ↔ fs.destination path = .ok place ∧ fs.node? place = some node := by
  unfold locate destination
  cases segmentsOf path with
  | error failure => simp
  | ok segments =>
      dsimp only
      cases fs.walk (fs.origin path.toList) segments with
      | error failure => simp
      | ok last =>
          dsimp only
          rw [Except.ok.injEq]
          constructor
          · intro h
            split at h
            · next hnode =>
                cases h
                exact ⟨rfl, hnode⟩
            · cases h
          · intro h
            obtain ⟨rfl, hnode⟩ := h
            rw [hnode]

theorem stands?_eq_some_iff {node : Node} :
    fs.stands? path = some node
      ↔ ∃ place, fs.locate path = .ok (place, node) := by
  simp only [locate_eq_ok_iff]
  unfold stands?
  cases fs.destination path with
  | error failure => simp
  | ok place => simp

-- =============================================================== walks

section
variable (hplace : fs.node? place ≠ some .directory)
include hplace

theorem demandDirectory_put_iff :
    (fs.put place (.file written)).demandDirectory other = .ok ()
      ↔ fs.demandDirectory other = .ok () := by
  rw [demandDirectory_eq_ok_iff, demandDirectory_eq_ok_iff]
  by_cases hother : other = place
  · subst hother
    exact iff_of_false (node?_ne_directory_put hplace) hplace
  · rw [node?_put_of_ne _ hother]

theorem step_put_iff {segment : List Char} {next : Place} :
    (fs.put place (.file written)).step other segment = .ok next
      ↔ fs.step other segment = .ok next := by
  rw [step_eq_ok_iff, step_eq_ok_iff, demandDirectory_put_iff hplace]

/-- A path leads where it led, and nowhere else. -/
theorem walk_put_iff {segments : List (List Char)} {last : Place} :
    (fs.put place (.file written)).walk other segments = .ok last
      ↔ fs.walk other segments = .ok last := by
  induction segments generalizing other with
  | nil => exact Iff.rfl
  | cons segment rest ih =>
      rw [walk_cons_eq_ok_iff, walk_cons_eq_ok_iff]
      exact exists_congr fun next => and_congr (step_put_iff hplace) ih

/-- Paths end where they ended, since a file is no place to pass through
before or after. -/
theorem destination_put_iff {last : Place} :
    (fs.put place (.file written)).destination path = .ok last
      ↔ fs.destination path = .ok last := by
  unfold destination
  cases segmentsOf path with
  | error failure => exact Iff.rfl
  | ok segments => exact walk_put_iff hplace

/-- A path that leads elsewhere finds what it found, or nothing still. -/
theorem stands?_put (hne : fs.destination path ≠ .ok place) :
    (fs.put place (.file written)).stands? path = fs.stands? path := by
  refine Option.ext fun node => ?_
  simp only [stands?_eq_some_iff, locate_eq_ok_iff,
    destination_put_iff hplace]
  refine exists_congr fun last => and_congr_right fun hlast => ?_
  have hother : last ≠ place := by
    intro heq
    obtain rfl := heq
    exact hne hlast
  rw [node?_put_of_ne _ hother]

/-- So a path may still be split as it was. -/
theorem ending_put {ending : Place × Option (List Char) × Bool}
    (h : fs.ending path = .ok ending) :
    (fs.put place (.file written)).ending path = .ok ending := by
  unfold FileSystem.ending at h ⊢
  cases hsegments : segmentsOf path with
  | error failure =>
      rw [hsegments] at h
      cases h
  | ok segments =>
      rw [hsegments] at h
      dsimp only at h ⊢
      have horigin : (fs.put place (.file written)).origin path.toList
          = fs.origin path.toList := rfl
      rw [horigin]
      split at h
      · cases h
      · next last hwalk =>
          rw [(walk_put_iff hplace).2 hwalk]
          dsimp only
          split at h
          · cases h
          · next hdirectory =>
              rw [(demandDirectory_put_iff hplace).2 hdirectory]
              exact h

/-- A path to write to leads to the same file still. -/
theorem target_put {last : Place} (h : fs.target path = .ok last) :
    (fs.put place (.file written)).target path = .ok last := by
  unfold target at h ⊢
  split at h
  · cases h
  · cases h
  · cases h
  · next above name hending =>
      rw [ending_put hplace hending]
      dsimp only
      split at h
      · cases h
      · next found hstep =>
          rw [(step_put_iff hplace).2 hstep]
          split at h
          · cases h
          · next hnode =>
              cases h
              dsimp only
              rw [if_neg]
              -- the target may be the very place that was written
              by_cases heq : last = place
              · subst heq
                exact node?_ne_directory_put hnode
              · rw [node?_put_of_ne _ heq]
                exact hnode

end

-- ============================================================ requests

/-- Where a file may be written stands no directory. -/
theorem node?_target_ne_directory {last : Place}
    (h : fs.target path = .ok last) : fs.node? last ≠ some .directory := by
  unfold target at h
  split at h
  · cases h
  · cases h
  · cases h
  · split at h
    · cases h
    · split at h
      · cases h
      · next hnode =>
          cases h
          exact hnode

/-- Adding to a file puts a file at its target, or does nothing. -/
theorem append_files (fs : FileSystem) (path : String)
    (added : List UInt8) :
    (fs.append path added).2 = fs
      ∨ ∃ last written, fs.target path = .ok last
        ∧ (fs.append path added).2 = fs.put last (.file written) := by
  unfold append
  cases htarget : fs.target path with
  | error failure => exact .inl rfl
  | ok last =>
      refine .inr ⟨last, ?_⟩
      dsimp only
      split
      · exact ⟨_, rfl, rfl⟩
      · exact ⟨_, rfl, rfl⟩

/-- What is read where something stands. -/
def contentsOf : Node → Except Failure (List UInt8)
  | .directory => .error .isDirectory
  | .file contents => .ok contents

/-- What is read is told from what stands there. -/
theorem read_of_stands? {node : Node} (h : fs.stands? path = some node) :
    fs.read path = contentsOf node := by
  obtain ⟨place, hlocate⟩ := stands?_eq_some_iff.1 h
  unfold read
  rw [hlocate]
  cases node <;> rfl

/-- What can be read is a file that stands at the path. -/
theorem read_eq_ok_iff {contents : List UInt8} :
    fs.read path = .ok contents
      ↔ fs.stands? path = some (.file contents) := by
  rw [stands?_eq_some_iff]
  unfold read
  split <;> simp_all

theorem isSome_kind? (fs : FileSystem) (path : String) :
    (fs.kind? path).isSome = (fs.stands? path).isSome := by
  unfold kind?
  cases hlocate : fs.locate path with
  | ok found =>
      obtain ⟨place, node⟩ := found
      rw [stands?_eq_some_iff.2 ⟨place, hlocate⟩]
      cases node <;> rfl
  | error failure =>
      cases hstands : fs.stands? path with
      | none => rfl
      | some node =>
          obtain ⟨place, hfound⟩ := stands?_eq_some_iff.1 hstands
          rw [hfound] at hlocate
          cases hlocate

theorem kind?_of_read {contents : List UInt8}
    (h : fs.read path = .ok contents) : fs.kind? path = some .file := by
  obtain ⟨place, hlocate⟩ := stands?_eq_some_iff.1 (read_eq_ok_iff.1 h)
  unfold kind?
  rw [hlocate]

end LinkOrder.Storage.FileSystem
