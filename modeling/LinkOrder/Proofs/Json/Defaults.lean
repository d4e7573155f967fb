/-
Records with defaults for all of their fields. Any field may be missing, at
any place of an object and at the end of a list, and the record is what is
made of the parts that are given (`Layout.means?_eq_some_iff_of_defaults`).
A list that ends early is a whole one for the fields that it reaches, so
what is known of lists without defaults carries over (`fillItems?_true`).
-/
import LinkOrder.Proofs.Json.Parts

namespace LinkOrder.Json

variable {State α : Type} {layout : Layout State} {shape : Shape State α}
  {slot : Slot State} {state filled : State} {record : α}
  {values items : List Tree}

-- =============================================================== parts

/-- The element of a list that has one at most. -/
def atMostOne? : List α → Option (Option α)
  | [] => some none
  | [value] => some (some value)
  | _ => none

/-- The items of a list, and nothing for what is left of `count`. -/
def padded (count : Nat) (items : List α) : List (Option α) :=
  items.map some ++ List.replicate (count - items.length) none

/-- The values that stand for the fields of a record of which fields may be
missing: in an object the ones by their names, none of which is there twice,
and in a list the items in order. -/
def Tree.givenParts? (names : List String) :
    Tree → Option (List (Option Tree))
  | .object members =>
      if members.all fun member => (stringOf? member.1).isSome then
        names.mapM fun name => atMostOne? (valuesOf name members)
      else none
  | .list items =>
      if items.length ≤ names.length then some (padded names.length items)
      else none
  | _ => none

-- =============================================================== slots

/-- The slot holds what the value means, and nothing where there is none. -/
def Slot.Shows (slot : Slot State) (filled : State) (part? : Option Tree) :
    Prop :=
  part?.map slot.means? = (slot.get filled).map some

/-- Where there is no value for it, the slot is empty. -/
theorem Slot.shows_none_iff :
    slot.Shows filled none ↔ slot.get filled = none := by
  rw [Shows, Option.map_none, eq_comm, Option.map_eq_none_iff]

/-- Where there is one, the slot holds what it means. -/
theorem Slot.shows_some_iff {value : Tree} :
    slot.Shows filled (some value) ↔ slot.Holds filled value := by
  rw [Shows, Option.map_some, eq_comm, Option.map_eq_some_iff]
  constructor
  · rintro ⟨meant, hget, hmeans⟩
    exact ⟨meant, hmeans.symm, hget⟩
  · rintro ⟨meant, hmeans, hget⟩
    exact ⟨meant, hget, hmeans.symm⟩

/-- Values fill an empty slot exactly if there is one of them at most and
the slot shows it. -/
theorem Slot.takes?_none_eq_get_iff :
    slot.takes? none values = some (slot.get filled)
      ↔ ∃ part?, atMostOne? values = some part?
        ∧ slot.Shows filled part? := by
  match values with
  | [] =>
      rw [takes?, atMostOne?, Option.some.injEq]
      simp only [Option.some.injEq, exists_eq_left', shows_none_iff]
      exact eq_comm
  | [value] =>
      rw [atMostOne?]
      simp only [Option.some.injEq, exists_eq_left', shows_some_iff]
      rw [takes?, Option.bind_eq_some_iff]
      exact exists_congr fun meant => and_congr_right fun _ => by
        rw [takes?, Option.some.injEq, eq_comm]
  | _ :: _ :: _ =>
      refine iff_of_false ?_ (by rintro ⟨_, ⟨⟩, _⟩)
      rw [takes?, Option.bind_eq_some_iff]
      rintro ⟨_, _, ⟨⟩⟩

/-- What is shown part by part is one state. -/
theorem Layout.eq_of_shows {parts : List (Option Tree)}
    (hstate : List.Forall₂ (fun slot part? => slot.Shows state part?)
      layout.slots parts)
    (hfilled : List.Forall₂ (fun slot part? => slot.Shows filled part?)
      layout.slots parts) : state = filled := by
  refine layout.ext fun slot hslot => ?_
  obtain ⟨part?, hone, htwo⟩ :=
    exists_forall₂_and_iff.1 ⟨parts, hstate, hfilled⟩ slot hslot
  exact Option.map_injective (fun _ _ => Option.some.inj)
    (hone.symm.trans htwo)

-- =============================================================== lists

/-- A list that ends early is a whole one for the first slots. -/
theorem fillItems?_true (state : State) (slots : List (Slot State))
    (items : List Tree) :
    fillItems? true state slots items
      = if items.length ≤ slots.length then
          fillItems? false state (slots.take items.length) items
        else none := by
  induction slots generalizing state items with
  | nil =>
      cases items with
      | nil => rfl
      | cons => rfl
  | cons slot slots ih =>
      cases items with
      | nil => rfl
      | cons item items =>
          rw [fillItems?]
          simp only [ih, List.length_cons, Nat.add_le_add_iff_right,
            List.take_succ_cons]
          split_ifs with hlength
          · rw [fillItems?]
          · exact Option.bind_fun_none _

/-- Padded items are shown if the first slots hold what the items mean and
the others nothing. -/
theorem forall₂_shows_padded_iff {slots : List (Slot State)}
    (hlength : items.length ≤ slots.length) :
    List.Forall₂ (fun slot part? => slot.Shows filled part?) slots
        (padded slots.length items)
      ↔ List.Forall₂ (fun slot item => slot.Holds filled item)
          (slots.take items.length) items
        ∧ ∀ slot ∈ slots.drop items.length, slot.get filled = none := by
  induction slots generalizing items with
  | nil =>
      cases items with
      | nil => exact iff_of_true .nil ⟨.nil, nofun⟩
      | cons => cases hlength
  | cons slot slots ih =>
      cases items with
      | nil =>
          have hmore := @ih [] (Nat.zero_le _)
          simp only [List.length_nil, List.take_zero, List.drop_zero,
            List.forall₂_nil_left_iff, true_and] at hmore ⊢
          show List.Forall₂ _ (slot :: slots)
            (none :: padded slots.length []) ↔ _
          rw [List.forall₂_cons, hmore, Slot.shows_none_iff,
            List.forall_mem_cons]
      | cons item items =>
          have hmore := ih (Nat.le_of_succ_le_succ hlength)
          have hpadded : padded (slot :: slots).length (item :: items)
              = some item :: padded slots.length items := by
            simp [padded]
          rw [hpadded, List.length_cons, List.take_succ_cons,
            List.drop_succ_cons, List.forall₂_cons, List.forall₂_cons, hmore,
            Slot.shows_some_iff, and_assoc]

/-- A list that may end early fills an empty state exactly if the state
shows its items. -/
theorem Layout.fillItems?_true_eq_some_iff
    (hblank : ∀ slot ∈ layout.slots, slot.get state = none) :
    fillItems? true state layout.slots items = some filled
      ↔ items.length ≤ layout.slots.length
        ∧ List.Forall₂ (fun slot part? => slot.Shows filled part?)
          layout.slots (padded layout.slots.length items) := by
  have hshows : ∀ {filled : State}, items.length ≤ layout.slots.length →
      fillItems? true state layout.slots items = some filled →
        List.Forall₂ (fun slot part? => slot.Shows filled part?)
          layout.slots (padded layout.slots.length items) := by
    intro filled hlength h
    rw [fillItems?_true, if_pos hlength] at h
    have hapart := layout.apart
    rw [← List.take_append_drop items.length layout.slots,
      List.pairwise_append] at hapart
    obtain ⟨hfirst, -, hcross⟩ := hapart
    obtain ⟨hholds, hframe⟩ := holds_of_fillItems? hfirst h
    refine (forall₂_shows_padded_iff hlength).2 ⟨hholds, ?_⟩
    intro slot hslot
    rw [hframe slot fun other hother =>
      symm (hcross other hother slot hslot)]
    exact hblank slot (List.mem_of_mem_drop hslot)
  constructor
  · intro h
    by_cases hlength : items.length ≤ layout.slots.length
    · exact ⟨hlength, hshows hlength h⟩
    · rw [fillItems?_true, if_neg hlength] at h
      cases h
  · rintro ⟨hlength, h⟩
    obtain ⟨hholds, -⟩ := (forall₂_shows_padded_iff hlength).1 h
    obtain ⟨other, hother⟩ : ∃ other,
        fillItems? true state layout.slots items = some other := by
      rw [fillItems?_true, if_pos hlength]
      exact exists_fillItems? state hholds
    -- a state is determined by what its slots show
    rw [hother, layout.eq_of_shows (hshows hlength hother) h]

-- ============================================================= records

/-- A record of which every field may be missing is what a state makes that
shows the parts that are given. -/
theorem Layout.means?_eq_some_iff_of_defaults {tree : Tree}
    (hend : shape.mayEndEarly = true)
    (hblank : ∀ slot ∈ layout.slots, slot.get shape.blank = none) :
    shape.means? layout.slots tree = some record
      ↔ ∃ filled parts,
        tree.givenParts? (layout.slots.map Slot.name) = some parts
          ∧ List.Forall₂ (fun slot part? => slot.Shows filled part?)
            layout.slots parts
          ∧ shape.finish filled = .ok record := by
  have hfinish : ∀ {filled? : Option State},
      shape.finish? filled? = some record
        ↔ ∃ filled, filled? = some filled
          ∧ shape.finish filled = .ok record := by
    intro filled?
    rw [Shape.finish?, Option.bind_eq_some_iff]
    simp only [toOption_eq_some_iff]
  cases tree with
  | object members =>
      rw [Shape.means?, hfinish, Tree.givenParts?]
      refine exists_congr fun filled => ?_
      rw [layout.fillMembers?_eq_some_iff]
      by_cases hkeys : ∀ member ∈ members, (stringOf? member.1).isSome
      · rw [and_iff_right hkeys, if_pos (List.all_eq_true.2 hkeys)]
        simp only [mapM_eq_some_iff, List.forall₂_map_left_iff,
          ← and_assoc, exists_and_right]
        rw [exists_forall₂_and_iff]
        refine and_congr_left' (forall₂_congr fun slot hslot => ?_)
        rw [hblank slot hslot]
        exact Slot.takes?_none_eq_get_iff
      · rw [if_neg (fun hall => hkeys (List.all_eq_true.1 hall))]
        exact iff_of_false (fun h => hkeys h.1.1) (by rintro ⟨_, ⟨⟩, _⟩)
  | list items =>
      rw [Shape.means?, hfinish, hend, Tree.givenParts?, List.length_map]
      refine exists_congr fun filled => ?_
      rw [layout.fillItems?_true_eq_some_iff hblank]
      split_ifs with hlength
      · simp only [hlength, true_and, Option.some.injEq, exists_eq_left']
      · exact iff_of_false (fun h => hlength h.1.1) (by rintro ⟨_, ⟨⟩, _⟩)
  | _ => simp [Shape.means?, Tree.givenParts?]

end LinkOrder.Json
