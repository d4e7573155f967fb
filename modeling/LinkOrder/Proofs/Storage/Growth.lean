/-
What saving a file does to the files. On the way to it directories are
made, and making directories only ever adds: a place is as it was, or
nothing stood there and a directory that was asked for stands there now
(`Grown`). Directories stay where they are, so every path that led
somewhere leads there still, and growing twice is growing
(`Grown.trans`). Whatever request fails in between, no more than that has
happened (`grown_makeAlong`).

The file itself is put last, at a place where no directory stands. So a
saved file is read back as it was written, and all else has grown
(`saved_writeText`).
-/
import Mathlib.Data.List.TakeWhile
import LinkOrder.Proofs.Storage.Frame
import LinkOrder.Storage.Surroundings

namespace LinkOrder

namespace Storage.FileSystem

variable {fs before between after : FileSystem} {place other last : Place}
  {path : String} {paths more : List String}

-- =============================================================== nodes

theorem node?_root (fs : FileSystem) : fs.node? [] = some .directory :=
  if_pos rfl

theorem ne_root_of_node? (h : fs.node? place ≠ some .directory) :
    place ≠ [] := by
  rintro rfl
  exact h fs.node?_root

-- ============================================================= endings

/-- A path is split at its last segment that is not empty: what is before
it has to lead to a directory. -/
theorem ending_eq_ok_iff {name? : Option (List Char)} {slashes : Bool} :
    fs.ending path = .ok (place, name?, slashes)
      ↔ ∃ segments, segmentsOf path = .ok segments
        ∧ let bare := segments.reverse.dropWhile (· = [])
          fs.walk (fs.origin path.toList) bare.tail.reverse = .ok place
          ∧ fs.demandDirectory place = .ok ()
          ∧ bare.head?.filter (fun name =>
              name ≠ ['.'] && name ≠ ['.', '.']) = name?
          ∧ decide (bare.length < segments.length) = slashes := by
  unfold ending
  cases segmentsOf path with
  | error failure => simp
  | ok segments =>
      simp only [Except.ok.injEq, exists_eq_left']
      cases fs.walk (fs.origin path.toList)
          (segments.reverse.dropWhile (· = [])).tail.reverse with
      | error failure => simp
      | ok above =>
          dsimp only
          rw [Except.ok.injEq]
          constructor
          · intro h
            split at h
            · cases h
            next hthere =>
            cases h
            exact ⟨rfl, hthere, rfl, rfl⟩
          · rintro ⟨rfl, hthere, rfl, rfl⟩
            rw [hthere]

theorem walk_append_eq_ok_iff {segments rest : List (List Char)} :
    fs.walk place (segments ++ rest) = .ok last
      ↔ ∃ next, fs.walk place segments = .ok next
        ∧ fs.walk next rest = .ok last := by
  induction segments generalizing place with
  | nil => simp [walk]
  | cons segment segments ih =>
      simp only [List.cons_append, walk_cons_eq_ok_iff, ih]
      constructor
      · rintro ⟨next, hstep, mid, hwalk, hrest⟩
        exact ⟨mid, ⟨next, hstep, hwalk⟩, hrest⟩
      · rintro ⟨mid, ⟨next, hstep, hwalk⟩, hrest⟩
        exact ⟨next, hstep, mid, hwalk, hrest⟩

/-- The slashes behind the name of a directory lead nowhere else. -/
theorem walk_slashes (hplace : fs.node? place = some .directory)
    (count : Nat) :
    fs.walk place (List.replicate count []) = .ok place := by
  induction count with
  | zero => rfl
  | succ count ih =>
      refine walk_cons_eq_ok_iff.2 ⟨place, step_eq_ok_iff.2 ?_, ih⟩
      exact ⟨demandDirectory_eq_ok_iff.2 hplace, Nat.zero_le _, rfl⟩

/-- A path that names something is what comes before the name, the name,
and the slashes behind it. -/
theorem segments_of_name {segments : List (List Char)} {name : List Char}
    (hname : (segments.reverse.dropWhile (· = [])).head? = some name) :
    segments = (segments.reverse.dropWhile (· = [])).tail.reverse
      ++ name :: List.replicate (segments.length
          - (segments.reverse.dropWhile (· = [])).length) [] := by
  have hsplit := List.takeWhile_append_dropWhile
    (p := fun segment : List Char => decide (segment = []))
    (l := segments.reverse)
  -- the empty segments at the end are the slashes
  have hslashes : segments.reverse.takeWhile (· = [])
      = List.replicate (segments.length
          - (segments.reverse.dropWhile (· = [])).length) [] := by
    refine List.eq_replicate_iff.2 ⟨?_, fun segment hmem => ?_⟩
    · have hlength := congrArg List.length hsplit
      rw [List.length_append, List.length_reverse] at hlength
      omega
    · simpa using List.mem_takeWhile_imp hmem
  obtain ⟨above, habove⟩ := List.head?_eq_some_iff.1 hname
  calc segments
      = segments.reverse.reverse := segments.reverse_reverse.symm
    _ = (segments.reverse.dropWhile (· = [])).reverse
          ++ (segments.reverse.takeWhile (· = [])).reverse := by
        rw [← List.reverse_append, hsplit]
    _ = _ := by
        rw [hslashes, List.reverse_replicate, habove, List.reverse_cons,
          List.append_assoc, List.singleton_append, List.tail_cons]

/-- Paths end in a name and slashes: whoever can step to the name from the
place before it, and finds a directory there if slashes follow, is at the
destination. -/
theorem destination_of_ending {name : List Char} {slashes : Bool}
    (hending : fs.ending path = .ok (place, some name, slashes))
    (hstep : fs.step place name = .ok last)
    (hslashes : slashes = true → fs.node? last = some .directory) :
    fs.destination path = .ok last := by
  obtain ⟨segments, hsegments, hwalk, -, hname, hmore⟩ :=
    ending_eq_ok_iff.1 hending
  have hname' := (Option.filter_eq_some_iff.1 hname).1
  unfold destination
  rw [hsegments]
  dsimp only
  rw [segments_of_name hname', walk_append_eq_ok_iff]
  refine ⟨place, hwalk, walk_cons_eq_ok_iff.2 ⟨last, hstep, ?_⟩⟩
  cases slashes with
  | true => exact walk_slashes (hslashes rfl) _
  | false =>
      rw [Nat.sub_eq_zero_of_le (Nat.not_lt.1 (of_decide_eq_false hmore))]
      rfl

/-- What is written to a path goes where the path leads. -/
theorem destination_of_target (h : fs.target path = .ok last) :
    fs.destination path = .ok last := by
  unfold target at h
  split at h
  · cases h
  · cases h
  · cases h
  next hending =>
  split at h
  · cases h
  next hstep =>
  split at h
  · cases h
  cases h
  exact destination_of_ending hending hstep (fun h => by cases h)

-- ============================================================== walking

/-- Every directory of one file system is one of the other, and paths
start at the same places. -/
structure Widened (before after : FileSystem) : Prop where
  workingDirectory : after.workingDirectory = before.workingDirectory
  directories : ∀ place, before.node? place = some .directory →
    after.node? place = some .directory

namespace Widened

theorem origin (h : Widened before after) (path : List Char) :
    after.origin path = before.origin path := by
  unfold FileSystem.origin
  rw [h.workingDirectory]

theorem demandDirectory (h : Widened before after)
    (hthere : before.demandDirectory place = .ok ()) :
    after.demandDirectory place = .ok () :=
  demandDirectory_eq_ok_iff.2
    (h.directories _ (demandDirectory_eq_ok_iff.1 hthere))

theorem step (h : Widened before after) {segment : List Char}
    (hstep : before.step place segment = .ok last) :
    after.step place segment = .ok last := by
  rw [step_eq_ok_iff] at hstep ⊢
  exact ⟨h.demandDirectory hstep.1, hstep.2⟩

/-- Walks that came to an end come to it still. -/
theorem walk (h : Widened before after) {segments : List (List Char)}
    (hwalk : before.walk place segments = .ok last) :
    after.walk place segments = .ok last := by
  induction segments generalizing place with
  | nil => exact hwalk
  | cons segment rest ih =>
      obtain ⟨next, hstep, hrest⟩ := walk_cons_eq_ok_iff.1 hwalk
      exact walk_cons_eq_ok_iff.2 ⟨next, h.step hstep, ih hrest⟩

theorem destination (h : Widened before after)
    (hpath : before.destination path = .ok last) :
    after.destination path = .ok last := by
  unfold FileSystem.destination at hpath ⊢
  rw [h.origin]
  cases hsegments : segmentsOf path with
  | error failure =>
      rw [hsegments] at hpath
      cases hpath
  | ok segments =>
      rw [hsegments] at hpath
      exact h.walk hpath

theorem ending (h : Widened before after) {name? : Option (List Char)}
    {slashes : Bool}
    (hending : before.ending path = .ok (place, name?, slashes)) :
    after.ending path = .ok (place, name?, slashes) := by
  rw [ending_eq_ok_iff] at hending ⊢
  obtain ⟨segments, hsegments, hwalk, hthere, hrest⟩ := hending
  refine ⟨segments, hsegments, ?_, h.demandDirectory hthere, hrest⟩
  rw [h.origin]
  exact h.walk hwalk

end Widened

-- ============================================================== growth

/-- What is there after some directories were made, of those that the
paths lead to, and nothing else was done. -/
structure Grown (paths : List String) (before after : FileSystem) :
    Prop where
  workingDirectory : after.workingDirectory = before.workingDirectory
  places : ∀ place, after.node? place = before.node? place
    ∨ before.node? place = none ∧ after.node? place = some .directory
      ∧ ∃ path ∈ paths, after.destination path = .ok place

namespace Grown

theorem refl (paths : List String) (fs : FileSystem) : Grown paths fs fs :=
  ⟨rfl, fun _ => .inl rfl⟩

/-- Nothing that led to a directory leads elsewhere. -/
theorem widened (h : Grown paths before after) : Widened before after := by
  refine ⟨h.workingDirectory, fun place hplace => ?_⟩
  obtain hsame | ⟨-, hmade, -⟩ := h.places place
  · rw [hsame, hplace]
  · exact hmade

theorem mono (h : Grown paths before after) (hsubset : paths ⊆ more) :
    Grown more before after := by
  refine ⟨h.workingDirectory, fun place => (h.places place).imp_right ?_⟩
  rintro ⟨hnone, hmade, path, hmem, hpath⟩
  exact ⟨hnone, hmade, path, hsubset hmem, hpath⟩

/-- What is added later is added too, since no path comes to lead
elsewhere. -/
theorem trans (h : Grown paths before between)
    (h' : Grown paths between after) : Grown paths before after := by
  refine ⟨h'.workingDirectory.trans h.workingDirectory, fun place => ?_⟩
  obtain hsame | ⟨hnone, hmade, path, hmem, hpath⟩ := h.places place
  · rw [← hsame]
    exact h'.places place
  · exact .inr ⟨hnone, h'.widened.directories _ hmade, path, hmem,
      h'.widened.destination hpath⟩

end Grown

/-- A directory can be made where a path has a name and nothing stands. -/
theorem ending_of_vacancy (h : fs.vacancy path = .ok last) :
    ∃ place name slashes, fs.ending path = .ok (place, some name, slashes)
      ∧ fs.step place name = .ok last ∧ fs.node? last = none := by
  unfold vacancy at h
  split at h
  · cases h
  · cases h
  next hending =>
  split at h
  · cases h
  next hstep =>
  split at h
  · cases h
  next hnone =>
  cases h
  exact ⟨_, _, _, hending, hstep, hnone⟩

/-- To make a directory is to add one where the path leads, or to do
nothing. -/
theorem grown_makeDirectory (fs : FileSystem) (path : String) :
    Grown [path] fs (fs.makeDirectory path).2 := by
  unfold makeDirectory
  cases hvacancy : fs.vacancy path with
  | error failure => exact .refl _ fs
  | ok made =>
      obtain ⟨above, name, slashes, hending, hstep, hnone⟩ :=
        ending_of_vacancy hvacancy
      have hfree : fs.node? made ≠ some .directory := by
        rw [hnone]
        exact nofun
      have hmade : (fs.put made .directory).node? made = some .directory :=
        node?_put_self _ (ne_root_of_node? hfree)
      have helse : ∀ other ≠ made,
          (fs.put made .directory).node? other = fs.node? other :=
        fun other hother => node?_put_of_ne _ hother
      have hwidened : Widened fs (fs.put made .directory) := by
        refine ⟨rfl, fun other hother => ?_⟩
        rw [helse other (by rintro rfl; simp [hnone] at hother), hother]
      have hpath : (fs.put made .directory).destination path = .ok made :=
        destination_of_ending (hwidened.ending hending)
          (hwidened.step hstep) fun _ => hmade
      refine ⟨rfl, fun other => ?_⟩
      by_cases hother : other = made
      · subst hother
        exact .inr ⟨hnone, hmade, path, List.mem_singleton_self path, hpath⟩
      · exact .inl (helse other hother)

-- ============================================================== saving

/-- What is there after a file was saved: the contents are read back, the
file stands where the path leads and no directory stood, and all other
places are as they were, or had nothing and have one of the directories
now that hold the file. -/
structure Saved (path : String) (contents : List UInt8)
    (before after : FileSystem) : Prop where
  workingDirectory : after.workingDirectory = before.workingDirectory
  read : after.read path = .ok contents
  places : ∃ place, after.target path = .ok place
    ∧ before.node? place ≠ some .directory
    ∧ after.node? place = some (.file contents)
    ∧ ∀ other ≠ place, after.node? other = before.node? other
      ∨ before.node? other = none ∧ after.node? other = some .directory
        ∧ ∃ above ∈ Path.ancestors (Path.parent path),
          after.destination above = .ok other

/-- A file that is written after the directories above it were made is
saved. -/
theorem Grown.saved (h : Grown (Path.ancestors (Path.parent path)) before
      between) {contents : List UInt8}
    (htarget : between.target path = .ok place) :
    Saved path contents before (between.put place (.file contents)) := by
  have hfile := node?_target_ne_directory htarget
  have hnode : (between.put place (.file contents)).node? place
      = some (.file contents) := node?_put_self _ (ne_root_of_node? hfile)
  refine ⟨h.workingDirectory, ?_, place, target_put hfile htarget,
    fun hdirectory => hfile (h.widened.directories _ hdirectory), hnode,
    fun other hother => ?_⟩
  · refine read_eq_ok_iff.2 (stands?_eq_some_iff.2 ⟨place, ?_⟩)
    refine locate_eq_ok_iff.2 ⟨?_, hnode⟩
    exact (destination_put_iff hfile).2 (destination_of_target htarget)
  · rw [node?_put_of_ne _ hother]
    refine (h.places other).imp_right ?_
    rintro ⟨hnone, hmade, above, hmem, habove⟩
    exact ⟨hnone, hmade, above, hmem, (destination_put_iff hfile).2 habove⟩

end Storage.FileSystem

namespace Simulation

open Storage.FileSystem

variable {α β : Type}

theorem run_bind (step : Simulation α) (next : α → Simulation β)
    (s : Surroundings) :
    (step >>= next) s = next (step s).1 (step s).2 := rfl

/-- A directory that is there already is looked at, and no more. -/
theorem files_settleDirectory (path : String) (s : Surroundings) :
    ((Host.settleDirectory path : Simulation _) s).2.files
      = (s.files.makeDirectory path).2 := by
  have hmake : ((Host.makeDirectory path : Simulation _) s).2.files
      = (s.files.makeDirectory path).2 := rfl
  unfold Host.settleDirectory
  rw [run_bind, ← hmake]
  generalize (Host.makeDirectory path : Simulation _) s = made
  obtain ⟨answer, t⟩ := made
  cases answer with
  | ok => rfl
  | error failure =>
      cases failure with
      | alreadyExists =>
          dsimp only
          rw [run_bind]
          split <;> rfl
      | _ => rfl

theorem grown_settleDirectory (path : String) (s : Surroundings) :
    Grown [path] s.files
      ((Host.settleDirectory path : Simulation _) s).2.files := by
  rw [files_settleDirectory]
  exact grown_makeDirectory s.files path

/-- Whether or not all directories come to be made, no more is done. -/
theorem grown_makeAlong (paths : List String) (s : Surroundings) :
    Grown paths s.files
      ((Host.makeAlong paths : Simulation _) s).2.files := by
  induction paths generalizing s with
  | nil => exact .refl _ s.files
  | cons path above ih =>
      have hsettle : ∀ t : Surroundings, Grown (path :: above) t.files
          ((Host.settleDirectory path : Simulation _) t).2.files :=
        fun t => (grown_settleDirectory path t).mono (by simp)
      have habove : ∀ t : Surroundings, Grown (path :: above) t.files
          ((Host.makeAlong above : Simulation _) t).2.files :=
        fun t => (ih t).mono (List.subset_cons_self path above)
      have hfirst := hsettle s
      unfold Host.makeAlong
      rw [run_bind]
      generalize (Host.settleDirectory path : Simulation _) s = first
        at hfirst ⊢
      obtain ⟨answer, t⟩ := first
      cases answer with
      | ok => exact hfirst
      | error failure =>
          cases failure with
          -- only a missing parent sends it up, and then it tries once more
          | notFound =>
              have hsecond := hfirst.trans (habove t)
              dsimp only
              rw [run_bind]
              generalize (Host.makeAlong above : Simulation _) t = second
                at hsecond ⊢
              obtain ⟨answer', u⟩ := second
              cases answer' with
              | ok => exact hsecond.trans (hsettle u)
              | error => exact hsecond
          | _ => exact hfirst

/-- Only the path and the directories above it can be added. -/
theorem grown_makeDirectories (path : String) (s : Surroundings) :
    Grown (Path.ancestors path) s.files
      ((Host.makeDirectories path : Simulation _) s).2.files := by
  unfold Host.makeDirectories
  exact grown_makeAlong _ s

end Simulation

end LinkOrder
