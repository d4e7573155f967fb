/-
Base names. A path ends in a component if that stands at the start or
behind a slash, says something, and nothing but idle slashes and dots come
behind it (`Path.EndsIn`). There is one such component at most, and it is
the last of the segments that say something (`getLast?_segments_iff`). The
base name of a path is the component that it ends in; a path that ends in
none, or in `..`, is its own base name (`baseName_eq`, `baseName_eq_self`).
So a base name has no slash, or else it is all of the path, and it is its
own base name (`baseName_baseName`).

All of this comes down to what a slash at the end of a path does to its
segments: with what follows it adds the one segment that follows, or none
if that says nothing (`segments_append_cons`).
-/
import LinkOrder.Path

namespace LinkOrder

-- ============================================================== pieces

namespace Text

variable {mark : Char} {text : List Char}

/-- Even of an empty text there is one piece, an empty one. -/
theorem pieces_ne_nil (mark : Char) (text : List Char) :
    pieces mark text ≠ [] := by
  cases text with
  | nil => exact nofun
  | cons c rest =>
      rw [pieces]
      split
      · exact nofun
      · split <;> exact nofun

/-- A mark ends the piece in front of it. -/
theorem pieces_append_cons (mark : Char) (before after : List Char) :
    pieces mark (before ++ mark :: after)
      = pieces mark before ++ pieces mark after := by
  induction before with
  | nil => simp [pieces]
  | cons c before ih =>
      rw [List.cons_append, pieces, pieces, ih]
      by_cases hc : c = mark
      · rw [if_pos hc, if_pos hc, List.cons_append]
      · rw [if_neg hc, if_neg hc]
        -- the piece in front of the mark is never missing, so there is one to
        -- join
        cases hpieces : pieces mark before with
        | nil => exact absurd hpieces (pieces_ne_nil mark before)
        | cons piece others => rfl

/-- A text without the mark is one piece. -/
theorem pieces_of_not_mem (h : mark ∉ text) : pieces mark text = [text] := by
  induction text with
  | nil => rfl
  | cons c rest ih =>
      rw [List.mem_cons, not_or] at h
      rw [pieces, if_neg (Ne.symm h.1), ih h.2]

end Text

namespace Path

-- ============================================================ segments

variable {path name front tail last : List Char}

/-- A segment, unless it says nothing. -/
def segmentOf (last : List Char) : List (List Char) :=
  if isSilent last then [] else [last]

/-- A text without a slash is one segment at most. -/
theorem segments_of_not_mem (h : '/' ∉ last) :
    segments last = segmentOf last := by
  unfold segments segmentOf
  rw [Text.pieces_of_not_mem h]
  cases hsilent : isSilent last with
  | true => simp [hsilent]
  | false => simp [hsilent]

/-- A path may be taken apart at any of its slashes. -/
theorem segments_append_cons (before after : List Char) :
    segments (before ++ '/' :: after)
      = segments before ++ segments after := by
  unfold segments
  rw [Text.pieces_append_cons, List.filter_append]

/-- Nothing but slashes, and dots behind slashes, that lead nowhere. -/
inductive Idle : List Char → Prop
  | nil : Idle []
  | slash {tail : List Char} (h : Idle tail) : Idle (tail ++ ['/'])
  | dot {tail : List Char} (h : Idle tail) : Idle (tail ++ ['/', '.'])

/-- The path ends in this component: it stands at the start or behind a
slash, and what is behind it is idle. -/
structure EndsIn (path name : List Char) : Prop where
  split : ∃ front tail, path = front ++ (name ++ tail)
    ∧ (front = [] ∨ ∃ above, front = above ++ ['/']) ∧ Idle tail
  noSlash : '/' ∉ name
  notSilent : isSilent name = false

/-- An idle tail adds no segment. -/
theorem Idle.segments_append (h : Idle tail) (path : List Char) :
    segments (path ++ tail) = segments path := by
  -- the tail is taken off from its end, slash by slash
  induction h with
  | nil => rw [List.append_nil]
  | slash _ ih =>
      rw [← List.append_assoc, segments_append_cons, ih]
      exact List.append_nil _
  | dot _ ih =>
      rw [← List.append_assoc, segments_append_cons, ih]
      exact List.append_nil _

/-- One more silent segment leaves a tail idle. -/
theorem Idle.append_silent (h : Idle tail) (hlast : isSilent last) :
    Idle (tail ++ '/' :: last) := by
  unfold isSilent at hlast
  rw [Bool.or_eq_true, decide_eq_true_eq, decide_eq_true_eq] at hlast
  rcases hlast with rfl | rfl
  · exact h.slash
  · exact h.dot

/-- The last segment that says something is the component that the path
ends in. -/
theorem getLast?_segments_iff :
    (segments path).getLast? = some name ↔ EndsIn path name := by
  constructor
  · intro h
    -- on the path without its last segment
    induction hn : path.length using Nat.strongRecOn generalizing path with
    | ind n ih =>
        cases hcut : Text.cutLast '/' path with
        | none =>
            have hslash := Text.cutLast_eq_none_iff.1 hcut
            rw [segments_of_not_mem hslash, segmentOf] at h
            split at h
            · cases h
            · next hheard =>
                cases h
                exact ⟨⟨[], [], by simp, .inl rfl, .nil⟩, hslash,
                  Bool.not_eq_true _ ▸ hheard⟩
        | some halves =>
            obtain ⟨before, last⟩ := halves
            obtain ⟨rfl, hslash⟩ := Text.cutLast_eq_some_iff.1 hcut
            rw [segments_append_cons, segments_of_not_mem hslash,
              segmentOf] at h
            split at h
            · next hsilent =>
                rw [List.append_nil] at h
                have hlt : before.length < n := by
                  rw [← hn, List.length_append]
                  exact Nat.lt_add_of_pos_right (Nat.succ_pos _)
                obtain ⟨⟨front, tail, rfl, hfront, htail⟩, hname, hheard⟩ :=
                  ih _ hlt h rfl
                refine ⟨⟨front, _, ?_, hfront, htail.append_silent hsilent⟩,
                  hname, hheard⟩
                simp only [List.append_assoc]
            · next hheard =>
                rw [List.getLast?_concat, Option.some.injEq] at h
                subst h
                exact ⟨⟨before ++ ['/'], [], by simp, .inr ⟨before, rfl⟩,
                  .nil⟩, hslash, Bool.not_eq_true _ ▸ hheard⟩
  · rintro ⟨⟨front, tail, rfl, hfront, htail⟩, hslash, hheard⟩
    have hname : segments name = [name] := by
      rw [segments_of_not_mem hslash, segmentOf, hheard]
      rfl
    rcases hfront with rfl | ⟨above, rfl⟩
    · rw [List.nil_append, htail.segments_append, hname]
      rfl
    · rw [List.append_assoc, List.singleton_append, segments_append_cons,
        htail.segments_append, hname, List.getLast?_concat]

/-- What a path ends in is not empty, as empty segments are silent. -/
theorem EndsIn.ne_nil (h : EndsIn path name) : name ≠ [] := by
  rintro rfl
  exact absurd h.notSilent (by decide)

/-- A component ends in itself. -/
theorem EndsIn.refl_name (h : EndsIn path name) : EndsIn name name :=
  ⟨⟨[], [], by simp, .inl rfl, .nil⟩, h.noSlash, h.notSilent⟩

-- ========================================================== base names

variable {text : String}

/-- The file name of a path is what it ends in, unless that goes up. -/
theorem fileName?_eq_some_iff :
    fileName? path = some name
      ↔ EndsIn path name ∧ name ≠ ['.', '.'] := by
  unfold fileName?
  rw [← getLast?_segments_iff]
  cases (segments path).getLast? with
  | none => simp
  | some last =>
      by_cases hup : last = ['.', '.']
      · simp only [hup, if_true, Option.some.injEq]
        refine iff_of_false nofun ?_
        rintro ⟨rfl, hname⟩
        exact hname rfl
      · simp only [hup, if_false, Option.some.injEq]
        constructor
        · rintro rfl
          exact ⟨rfl, hup⟩
        · exact And.left

/-- The base name is the component that the path ends in. -/
theorem baseName_eq (h : EndsIn text.toList name) (hup : name ≠ ['.', '.']) :
    baseName text = String.ofList name := by
  unfold baseName
  rw [fileName?_eq_some_iff.2 ⟨h, hup⟩]

/-- A path that ends in no component, or in `..`, is its own base name. -/
theorem baseName_eq_self
    (h : ∀ name, EndsIn text.toList name → name = ['.', '.']) :
    baseName text = text := by
  have hnone : fileName? text.toList = none := by
    refine Option.eq_none_iff_forall_ne_some.2 fun name hname => ?_
    obtain ⟨hends, hup⟩ := fileName?_eq_some_iff.1 hname
    exact hup (h name hends)
  unfold baseName
  rw [hnone]

/-- There are two cases only: the text has no file name and is its own base
name, or it ends in its base name. -/
theorem baseName_cases (text : String) :
    (∀ name, EndsIn text.toList name → name = ['.', '.'])
        ∧ baseName text = text
      ∨ EndsIn text.toList (baseName text).toList
        ∧ (baseName text).toList ≠ ['.', '.'] := by
  cases hname : fileName? text.toList with
  | none =>
      have hall : ∀ name, EndsIn text.toList name → name = ['.', '.'] := by
        intro name hends
        refine Decidable.byContradiction fun hup => ?_
        rw [fileName?_eq_some_iff.2 ⟨hends, hup⟩] at hname
        cases hname
      exact .inl ⟨hall, baseName_eq_self hall⟩
  | some name =>
      obtain ⟨hends, hup⟩ := fileName?_eq_some_iff.1 hname
      rw [baseName_eq hends hup, String.toList_ofList]
      exact .inr ⟨hends, hup⟩

/-- A base name is its own base name. -/
theorem baseName_baseName (text : String) :
    baseName (baseName text) = baseName text := by
  rcases baseName_cases text with ⟨-, hself⟩ | ⟨hends, hup⟩
  · rw [hself, hself]
  · rw [baseName_eq hends.refl_name hup, String.ofList_toList]

/-- Base names are made of characters of the path. -/
theorem mem_of_mem_baseName {c : Char} (h : c ∈ (baseName text).toList) :
    c ∈ text.toList := by
  rcases baseName_cases text with ⟨-, hself⟩ | ⟨hends, -⟩
  · rwa [hself] at h
  · obtain ⟨front, tail, htext, -, -⟩ := hends.split
    rw [htext]
    simp [h]

end Path

end LinkOrder
