/-
Records as they are written, and records without defaults. The members
that are written for a full state mean its record (`Layout.spells_members`),
whatever becomes of fields that are missing. A record of which no field
may be missing has the parts that its value gives under its names, in
either form (`Layout.means?_eq_some_iff`).
-/
import LinkOrder.Proofs.Json.Slots

namespace LinkOrder.Json

variable {State α β : Type} {layout : Layout State}
  {shape : Shape State α} {slots : List (Slot State)} {full : State}
  {record : α}

-- ============================================================= writing

/-- The members that are written for a full state. -/
def memberTexts (slots : List (Slot State)) (full : State) :
    List (String × List Char) :=
  slots.filterMap fun slot =>
    (slot.get full).map fun value => (slot.name, slot.write value)

/-- The member bears the name of the slot and means what it holds. -/
def Slot.Tells (slot : Slot State) (full : State)
    (member : List Piece × Tree) : Prop :=
  stringOf? member.1 = some slot.name ∧ slot.Holds full member.2

/-- Every slot is written as a member that tells what it holds. -/
theorem exists_writtenMembers
    (hfull : ∀ slot ∈ slots, (slot.get full).isSome) :
    ∃ members, List.Forall₂ WrittenMember (memberTexts slots full) members
      ∧ List.Forall₂ (fun slot member => slot.Tells full member)
        slots members := by
  induction slots with
  | nil => exact ⟨[], .nil, .nil⟩
  | cons slot slots ih =>
      obtain ⟨members, hwritten, htells⟩ :=
        ih fun slot hslot => hfull slot (List.mem_cons_of_mem _ hslot)
      obtain ⟨value, hvalue⟩ :=
        Option.isSome_iff_exists.1 (hfull slot List.mem_cons_self)
      obtain ⟨key, hkey, hname⟩ := spells_writeString slot.name
      obtain ⟨tree, htree, hmeans⟩ := slot.inscribed value
      refine ⟨(key, tree) :: members, ?_,
        .cons ⟨hname, value, hmeans, hvalue⟩ htells⟩
      rw [memberTexts, List.filterMap_cons, hvalue]
      exact .cons ⟨hkey, htree⟩ hwritten

section
variable {members : List (List Piece × Tree)}

/-- The keys of members that tell of slots can be decoded. -/
theorem keys_of_tells
    (h : List.Forall₂ (fun slot member => slot.Tells full member)
      slots members) :
    ∀ member ∈ members, (stringOf? member.1).isSome := by
  induction h with
  | nil => exact nofun
  | cons htells _ ih =>
      intro member hmember
      rcases List.mem_cons.1 hmember with rfl | hmember
      · rw [htells.1]
        rfl
      · exact ih member hmember

/-- Members that tell of slots have no values for other names. -/
theorem valuesOf_eq_nil {name : String}
    (h : List.Forall₂ (fun slot member => slot.Tells full member)
      slots members) (hname : ∀ slot ∈ slots, slot.name ≠ name) :
    valuesOf name members = [] := by
  induction h with
  | nil => rfl
  | @cons slot member slots members htells _ ih =>
      have hother : stringOf? member.1 ≠ some name := by
        rw [htells.1, ne_eq, Option.some.injEq]
        exact hname slot List.mem_cons_self
      rw [valuesOf_cons, if_neg hother, List.nil_append]
      exact ih fun slot hslot => hname slot (List.mem_cons_of_mem _ hslot)

/-- Each slot finds one member by its name. -/
theorem exists_valuesOf (hslots : slots.Pairwise Slot.Apart)
    (h : List.Forall₂ (fun slot member => slot.Tells full member)
      slots members) :
    ∀ slot ∈ slots, ∃ tree, valuesOf slot.name members = [tree]
      ∧ slot.Holds full tree := by
  induction h with
  | nil => exact nofun
  | @cons first member slots members htells hmore ih =>
      obtain ⟨hfirst, hslots⟩ := List.pairwise_cons.1 hslots
      intro slot hslot
      rcases List.mem_cons.1 hslot with rfl | hslot
      · refine ⟨member.2, ?_, htells.2⟩
        rw [valuesOf_cons, if_pos htells.1, valuesOf_eq_nil hmore
          fun other hother => (hfirst other hother).names.symm]
        rfl
      · obtain ⟨tree, htree, hholds⟩ := ih hslots slot hslot
        have hother : stringOf? member.1 ≠ some slot.name := by
          rw [htells.1, ne_eq, Option.some.injEq]
          exact (hfirst slot hslot).names
        refine ⟨tree, ?_, hholds⟩
        rw [valuesOf_cons, if_neg hother, htree]
        rfl

end

/-- What is written for a full state means its record. -/
theorem Layout.spells_members
    (hblank : ∀ slot ∈ layout.slots, slot.get shape.blank = none)
    (hfinish : shape.finish full = .ok record)
    (hfull : ∀ slot ∈ layout.slots, (slot.get full).isSome) :
    ∃ tree, Spells (writeObject (memberTexts layout.slots full)) tree
      ∧ shape.means? layout.slots tree = some record := by
  obtain ⟨members, hwritten, htells⟩ := exists_writtenMembers hfull
  refine ⟨.object members, spells_writeObject hwritten, ?_⟩
  have hfilled : fillMembers? layout.slots shape.blank members
      = some full := by
    refine layout.fillMembers?_eq_some_iff.2
      ⟨keys_of_tells htells, fun slot hslot => ?_⟩
    obtain ⟨tree, htree, meant, hmeans, hget⟩ :=
      exists_valuesOf layout.apart htells slot hslot
    rw [hblank slot hslot, hget, htree, Slot.takes?_none_eq_some_iff]
    exact ⟨tree, rfl, hmeans⟩
  rw [Shape.means?, hfilled, Shape.finish?, Option.bind_some, hfinish]
  rfl

-- =============================================================== parts

/-- The element of a list that has no other. -/
def only? : List α → Option α
  | [value] => some value
  | _ => none

/-- The values that stand for the fields of a record: in an object the
ones by their names, each of which is there once, and in a list all items
in order. Keys that are no strings are in no object. -/
def Tree.parts? (names : List String) : Tree → Option (List Tree)
  | .object members =>
      if members.all fun member => (stringOf? member.1).isSome then
        names.mapM fun name => only? (valuesOf name members)
      else none
  | .list items => if items.length = names.length then some items else none
  | _ => none

theorem only?_eq_some_iff {values : List α} {value : α} :
    only? values = some value ↔ values = [value] := by
  unfold only?
  split
  · rw [Option.some.injEq, List.cons.injEq, and_iff_left rfl]
  · next hmany =>
      refine iff_of_false nofun ?_
      rintro rfl
      exact hmany _ rfl

theorem mapM_eq_some_iff {f : α → Option β} {xs : List α} {ys : List β} :
    xs.mapM f = some ys ↔ List.Forall₂ (fun x y => f x = some y) xs ys := by
  induction xs generalizing ys with
  | nil =>
      rw [List.mapM_nil, List.forall₂_nil_left_iff]
      exact ⟨fun h => (Option.some.inj h).symm, fun h => h ▸ rfl⟩
  | cons x xs ih =>
      rw [List.mapM_cons, List.forall₂_cons_left_iff]
      simp only [Option.bind_eq_bind, Option.bind_eq_some_iff, ih]
      constructor
      · rintro ⟨y, hy, more, hmore, hys⟩
        exact ⟨y, more, hy, hmore, (Option.some.inj hys).symm⟩
      · rintro ⟨y, more, hy, hmore, rfl⟩
        exact ⟨y, hy, more, hmore, rfl⟩

/-- Of two lists that are related item by item, each item of the first has
a partner. -/
theorem exists_of_forall₂ {σ τ : Type*} {R : σ → τ → Prop} {xs : List σ}
    {ys : List τ} (h : List.Forall₂ R xs ys) :
    ∀ x ∈ xs, ∃ y, R x y := by
  induction h with
  | nil => exact nofun
  | cons hone _ ih =>
      intro x hx
      rcases List.mem_cons.1 hx with rfl | hx
      · exact ⟨_, hone⟩
      · exact ih x hx

/-- A list means what its items mean, one by one. -/
theorem Tree.list?_eq_some_iff {item? : Tree → Option α} {tree : Tree}
    {values : List α} :
    tree.list? item? = some values
      ↔ ∃ items, tree = .list items
        ∧ List.Forall₂ (fun item value => item? item = some value) items
          values := by
  cases tree with
  | list items => simp only [Tree.list?, mapM_eq_some_iff, Tree.list.injEq,
      exists_eq_left']
  | null => exact iff_of_false nofun (by rintro ⟨_, ⟨⟩, _⟩)
  | boolean => exact iff_of_false nofun (by rintro ⟨_, ⟨⟩, _⟩)
  | number => exact iff_of_false nofun (by rintro ⟨_, ⟨⟩, _⟩)
  | string => exact iff_of_false nofun (by rintro ⟨_, ⟨⟩, _⟩)
  | object => exact iff_of_false nofun (by rintro ⟨_, ⟨⟩, _⟩)

/-- A record without defaults has the parts that stand for its fields. -/
theorem Layout.means?_eq_some_iff {tree : Tree}
    (hend : shape.mayEndEarly = false)
    (hblank : ∀ slot ∈ layout.slots, slot.get shape.blank = none)
    (hfinish : ∀ filled,
      shape.finish filled = .ok record ↔ filled = full)
    (hfull : ∀ slot ∈ layout.slots, (slot.get full).isSome) :
    shape.means? layout.slots tree = some record
      ↔ ∃ parts, tree.parts? (layout.slots.map Slot.name) = some parts
        ∧ List.Forall₂ (fun slot part => slot.Holds full part)
          layout.slots parts := by
  have hfilled : ∀ filled? : Option State,
      shape.finish? filled? = some record ↔ filled? = some full := by
    intro filled?
    rw [Shape.finish?, Option.bind_eq_some_iff]
    simp only [toOption_eq_some_iff, hfinish, exists_eq_right]
  cases tree with
  | object members =>
      rw [Shape.means?, hfilled, layout.fillMembers?_eq_some_iff,
        Tree.parts?]
      -- a key that is no text spoils the whole object
      by_cases hkeys : ∀ member ∈ members, (stringOf? member.1).isSome
      · rw [and_iff_right hkeys, if_pos (List.all_eq_true.2 hkeys)]
        simp only [mapM_eq_some_iff, List.forall₂_map_left_iff,
          only?_eq_some_iff]
        rw [exists_forall₂_and_iff]
        refine forall₂_congr fun slot hslot => ?_
        obtain ⟨meant, hmeant⟩ :=
          Option.isSome_iff_exists.1 (hfull slot hslot)
        rw [hblank slot hslot, hmeant, Slot.takes?_none_eq_some_iff]
        simp only [Slot.Holds, hmeant, Option.some.injEq, exists_eq_right']
      · rw [if_neg (fun hall => hkeys (List.all_eq_true.1 hall))]
        exact iff_of_false (fun h => hkeys h.1) (by rintro ⟨_, ⟨⟩, _⟩)
  | list items =>
      rw [Shape.means?, hfilled, hend, layout.fillItems?_eq_some_iff,
        Tree.parts?]
      constructor
      · intro h
        have hlength := h.length_eq
        exact ⟨items, by simp [hlength], h⟩
      · rintro ⟨parts, hparts, h⟩
        split_ifs at hparts
        cases hparts
        exact h
  | _ => simp [Shape.means?, Tree.parts?]

end LinkOrder.Json
