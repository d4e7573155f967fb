/-
What the members of an object, or the items of a list, make of a record.
A field of a record is a slot of the state that is filled: it is empty at
first and takes one value (`Slot`). The slots of a layout do not get into
each other's way, so members fill each slot with the value that bears its
name, wherever it stands and whatever stands around it
(`Layout.fillMembers?_eq_some_iff`), and items fill them in order
(`Layout.fillItems?_eq_some_iff`).
-/
import Mathlib.Data.List.Forall2
import Mathlib.Data.List.Pairwise
import LinkOrder.Json.Shape
import LinkOrder.Proofs.Json.Writing

namespace LinkOrder.Json

variable {State α β : Type}

-- ============================================================== values

/-- The values of the members with a name. -/
def valuesOf (name : String) (members : List (List Piece × Tree)) :
    List Tree :=
  members.filterMap fun (key, value) =>
    if stringOf? key = some name then some value else none

/-- A member has a value for one name at most. -/
theorem valuesOf_cons (name : String) (key : List Piece) (value : Tree)
    (members : List (List Piece × Tree)) :
    valuesOf name ((key, value) :: members)
      = (if stringOf? key = some name then [value] else [])
        ++ valuesOf name members := by
  unfold valuesOf
  rw [List.filterMap_cons]
  dsimp only
  split_ifs <;> rfl

-- =============================================================== slots

/-- A field of a record, how its values are read and written, and what
they mean. -/
structure Slot (State : Type) where
  Value : Type
  name : String
  get : State → Option Value
  set : State → Value → State
  reader : Reader Value
  write : Value → List Char
  means? : Tree → Option Value
  faithful : Faithful reader means?
  inscribed : Inscribed write means?
  get_set : ∀ state value, get (set state value) = some value

namespace Slot

/-- A field that holds a string. -/
def string (name : String) (get : State → Option String)
    (set : State → String → State)
    (get_set : ∀ state value, get (set state value) = some value) :
    Slot State :=
  { Value := String, name, get, set, get_set
    reader := .string
    write := writeString
    means? := Tree.string?
    faithful := faithful_string
    inscribed := inscribed_string }

/-- A field that holds a number. -/
def natural (name : String) (get : State → Option UInt64)
    (set : State → UInt64 → State)
    (get_set : ∀ state value, get (set state value) = some value) :
    Slot State :=
  { Value := UInt64, name, get, set, get_set
    reader := .natural
    write := writeNatural
    means? := Tree.natural?
    faithful := faithful_natural
    inscribed := inscribed_natural }

/-- A field that holds a list. -/
def list {item : Reader α} {write : α → List Char}
    {item? : Tree → Option α} (name : String)
    (get : State → Option (List α)) (set : State → List α → State)
    (get_set : ∀ state value, get (set state value) = some value)
    (hread : Faithful item item?) (hwrite : Inscribed write item?) :
    Slot State :=
  { Value := List α, name, get, set, get_set
    reader := .list item
    write := fun values => writeList (values.map write)
    means? := Tree.list? item?
    faithful := faithful_list hread
    inscribed := inscribed_list hwrite }

/-- The field as it is read. -/
def field (slot : Slot State) : Field State where
  name := slot.name
  isFilled state := (slot.get state).isSome
  read state := slot.reader.map (slot.set state)

/-- The state in which the slot holds what a value means. -/
def fill? (slot : Slot State) (state : State) (value : Tree) :
    Option State :=
  (slot.means? value).map (slot.set state)

/-- What a slot holds behind values that are meant for it. None comes on
top of another. -/
def takes? (slot : Slot State) :
    Option slot.Value → List Tree → Option (Option slot.Value)
  | held, [] => some held
  | none, tree :: trees =>
      (slot.means? tree).bind fun value => slot.takes? (some value) trees
  | some _, _ :: _ => none

/-- Slots by different names that are kept in different places. -/
structure Apart (slot other : Slot State) : Prop where
  names : slot.name ≠ other.name
  get_set : ∀ state value, slot.get (other.set state value) = slot.get state
  set_get : ∀ state value, other.get (slot.set state value) = other.get state

instance : Std.Symm (@Apart State) where
  symm _ _ h := ⟨h.names.symm, h.set_get, h.get_set⟩

/-- A full slot takes nothing. -/
theorem takes?_some (slot : Slot State) (value : slot.Value)
    (trees : List Tree) :
    slot.takes? (some value) trees
      = if trees.isEmpty then some (some value) else none := by
  cases trees with
  | nil => rfl
  | cons => rfl

/-- An empty slot is filled by the one value that it takes. -/
theorem takes?_none_eq_some_iff {slot : Slot State} {trees : List Tree}
    {value : slot.Value} :
    slot.takes? none trees = some (some value)
      ↔ ∃ tree, trees = [tree] ∧ slot.means? tree = some value := by
  cases trees with
  | nil => exact iff_of_false nofun nofun
  | cons tree trees =>
      rw [takes?]
      simp only [Option.bind_eq_some_iff, takes?_some]
      cases trees with
      | nil => simp
      | cons => simp

/-- Values are taken one after the other, so a row of them can be cut
anywhere. -/
theorem takes?_append (slot : Slot State) (held : Option slot.Value)
    (trees more : List Tree) :
    slot.takes? held (trees ++ more)
      = (slot.takes? held trees).bind (slot.takes? · more) := by
  induction trees generalizing held with
  | nil => rfl
  | cons tree trees ih =>
      cases held with
      | some => rfl
      | none =>
          rw [List.cons_append, takes?, takes?, Option.bind_assoc]
          simp only [ih]

end Slot

-- ============================================================= members

/-- The state behind a value by a name. No slot takes a second value, and
names of no slot mean nothing. -/
def fillNamed? (slots : List (Slot State)) (state : State) (name : String)
    (value : Tree) : Option State :=
  match slots.find? (·.name = name) with
  | none => some state
  | some slot =>
      if (slot.get state).isSome then none else slot.fill? state value

def fillMember? (slots : List (Slot State)) (state : State)
    (member : List Piece × Tree) : Option State :=
  (stringOf? member.1).bind fun name =>
    fillNamed? slots state name member.2

/-- The state behind the members of an object. -/
def fillMembers? (slots : List (Slot State)) (state : State)
    (members : List (List Piece × Tree)) : Option State :=
  members.foldlM (fillMember? slots) state

/-- The state behind the items of a list, one for each slot. Only some
lists may leave the last slots out. -/
def fillItems? (mayEndEarly : Bool) (state : State) :
    List (Slot State) → List Tree → Option State
  | [], [] => some state
  | [], _ :: _ => none
  | _ :: _, [] => if mayEndEarly then some state else none
  | slot :: slots, item :: items =>
      (slot.fill? state item).bind (fillItems? mayEndEarly · slots items)

/-- The fields of a record: each slot apart from the others, and together
all of the state. -/
structure Layout (State : Type) where
  slots : List (Slot State)
  apart : slots.Pairwise Slot.Apart
  ext : ∀ {state filled : State},
    (∀ slot ∈ slots, slot.get state = slot.get filled) → state = filled

namespace Layout

variable {layout : Layout State} {state next filled : State}
  {name : String} {value : Tree} {members : List (List Piece × Tree)}
  {slot other : Slot State}

/-- Slots of different names are apart: to fill one leaves the other as it
is. -/
theorem apart_of_name_ne (hslot : slot ∈ layout.slots)
    (hother : other ∈ layout.slots) (hname : slot.name ≠ other.name) :
    slot.Apart other :=
  layout.apart.forall hslot hother (ne_of_apply_ne Slot.name hname)

/-- No two slots of a layout share a name. -/
theorem eq_of_name_eq (hslot : slot ∈ layout.slots)
    (hother : other ∈ layout.slots) (hname : slot.name = other.name) :
    slot = other := by
  by_contra hne
  exact (layout.apart.forall hslot hother hne).names hname

/-- A slot that is found by a name is one of the layout and bears it. -/
theorem of_find?_eq_some
    (h : layout.slots.find? (·.name = name) = some slot) :
    slot ∈ layout.slots ∧ slot.name = name := by
  have hname := List.find?_some h
  exact ⟨List.mem_of_find?_eq_some h, by simpa using hname⟩

/-- The one slot by a name. -/
theorem find?_eq_some (hslot : slot ∈ layout.slots)
    (hname : slot.name = name) :
    layout.slots.find? (·.name = name) = some slot := by
  cases hfind : layout.slots.find? (·.name = name) with
  | none =>
      rw [List.find?_eq_none] at hfind
      exact absurd (decide_eq_true hname) (hfind slot hslot)
  | some other =>
      obtain ⟨hother, hnamed⟩ := layout.of_find?_eq_some hfind
      rw [layout.eq_of_name_eq hslot hother (hname.trans hnamed.symm)]

/-- A value by a name concerns the slot by that name and no other. -/
theorem get_fillNamed? (hslot : slot ∈ layout.slots)
    (h : fillNamed? layout.slots state name value = some next) :
    slot.takes? (slot.get state)
        (if slot.name = name then [value] else [])
      = some (slot.get next) := by
  unfold fillNamed? at h
  split_ifs with hname
  · rw [layout.find?_eq_some hslot hname] at h
    dsimp only at h
    split_ifs at h with hfull
    obtain ⟨meant, hmeans, rfl⟩ := Option.map_eq_some_iff.1 h
    rw [Option.not_isSome_iff_eq_none.1 hfull, slot.get_set, Slot.takes?,
      hmeans]
    rfl
  · split at h
    · cases h
      rfl
    · next other hfind =>
        obtain ⟨hother, hnamed⟩ := layout.of_find?_eq_some hfind
        have hapart := layout.apart_of_name_ne hslot hother
          (hnamed ▸ hname)
        split_ifs at h with hfull
        obtain ⟨meant, -, rfl⟩ := Option.map_eq_some_iff.1 h
        rw [hapart.get_set]
        rfl

/-- A value by a name is taken if the slot by that name takes it. -/
theorem exists_fillNamed?
    (h : ∀ slot ∈ layout.slots, slot.name = name →
      ∃ held, slot.takes? (slot.get state) [value] = some held) :
    ∃ next, fillNamed? layout.slots state name value = some next := by
  unfold fillNamed?
  split
  · exact ⟨state, rfl⟩
  · next slot hfind =>
      obtain ⟨hslot, hname⟩ := layout.of_find?_eq_some hfind
      obtain ⟨held, hheld⟩ := h slot hslot hname
      cases hstate : slot.get state with
      | some =>
          rw [hstate] at hheld
          cases hheld
      | none =>
          rw [hstate, Slot.takes?, Option.bind_eq_some_iff] at hheld
          obtain ⟨meant, hmeans, -⟩ := hheld
          rw [if_neg (by simp), Slot.fill?, hmeans]
          exact ⟨_, rfl⟩

/-- Members fill every slot with the values by its name. -/
theorem get_fillMembers? (hslot : slot ∈ layout.slots)
    (h : fillMembers? layout.slots state members = some filled) :
    slot.takes? (slot.get state) (valuesOf slot.name members)
      = some (slot.get filled) := by
  induction members generalizing state with
  | nil =>
      cases h
      rfl
  | cons member members ih =>
      obtain ⟨key, value⟩ := member
      rw [fillMembers?, List.foldlM_cons] at h
      obtain ⟨next, hmember, hmembers⟩ := Option.bind_eq_some_iff.1 h
      obtain ⟨name, hname, hnamed⟩ := Option.bind_eq_some_iff.1 hmember
      have hfirst := layout.get_fillNamed? hslot hnamed
      rw [valuesOf_cons, Slot.takes?_append, hname]
      simp only [Option.some.injEq, eq_comm (a := name)]
      rw [hfirst]
      exact ih hmembers

/-- Members are taken if all keys are strings and every slot takes the
values by its name. -/
theorem exists_fillMembers?
    (hkeys : ∀ member ∈ members, (stringOf? member.1).isSome)
    (hheld : ∀ slot ∈ layout.slots, ∃ held,
      slot.takes? (slot.get state) (valuesOf slot.name members)
        = some held) :
    ∃ filled, fillMembers? layout.slots state members = some filled := by
  induction members generalizing state with
  | nil => exact ⟨state, rfl⟩
  | cons member members ih =>
      obtain ⟨key, value⟩ := member
      obtain ⟨name, hname⟩ :=
        Option.isSome_iff_exists.1 (hkeys _ List.mem_cons_self)
      simp only [valuesOf_cons, Slot.takes?_append, hname,
        Option.some.injEq, eq_comm (a := name),
        Option.bind_eq_some_iff] at hheld
      obtain ⟨next, hnext⟩ : ∃ next,
          fillNamed? layout.slots state name value = some next := by
        refine layout.exists_fillNamed? fun slot hslot hnamed => ?_
        obtain ⟨_, held, hfirst, -⟩ := hheld slot hslot
        rw [if_pos hnamed] at hfirst
        exact ⟨held, hfirst⟩
      -- behind the first member every slot takes what it took there
      obtain ⟨filled, hfilled⟩ : ∃ filled,
          fillMembers? layout.slots next members = some filled := by
        refine ih (fun member hmember =>
          hkeys member (List.mem_cons_of_mem _ hmember)) ?_
        intro slot hslot
        obtain ⟨final, held, hfirst, hfinal⟩ := hheld slot hslot
        rw [layout.get_fillNamed? hslot hnext, Option.some.injEq] at hfirst
        rw [hfirst]
        exact ⟨final, hfinal⟩
      refine ⟨filled, ?_⟩
      rw [fillMembers?, List.foldlM_cons]
      simp only [fillMember?, hname, Option.bind_some, hnext]
      exact hfilled

/-- Members are looked up by decoded keys; one that cannot be decoded is
refused. -/
theorem keys_of_fillMembers? {slots : List (Slot State)}
    (h : fillMembers? slots state members = some filled) :
    ∀ member ∈ members, (stringOf? member.1).isSome := by
  induction members generalizing state with
  | nil => exact nofun
  | cons member members ih =>
      rw [fillMembers?, List.foldlM_cons] at h
      obtain ⟨next, hmember, hmembers⟩ := Option.bind_eq_some_iff.1 h
      obtain ⟨name, hname, -⟩ := Option.bind_eq_some_iff.1 hmember
      intro one hone
      rcases List.mem_cons.1 hone with rfl | hone
      · rw [hname]
        rfl
      · exact ih hmembers one hone

/-- An object fills a state exactly if every slot takes the values by its
name and ends with what the state holds. -/
theorem fillMembers?_eq_some_iff :
    fillMembers? layout.slots state members = some filled
      ↔ (∀ member ∈ members, (stringOf? member.1).isSome)
        ∧ ∀ slot ∈ layout.slots,
          slot.takes? (slot.get state) (valuesOf slot.name members)
            = some (slot.get filled) := by
  constructor
  · intro h
    exact ⟨keys_of_fillMembers? h,
      fun slot hslot => layout.get_fillMembers? hslot h⟩
  · rintro ⟨hkeys, hheld⟩
    obtain ⟨other, hother⟩ := layout.exists_fillMembers? hkeys
      fun slot hslot => ⟨_, hheld slot hslot⟩
    have heq : other = filled := layout.ext fun slot hslot =>
      Option.some.inj
        ((layout.get_fillMembers? hslot hother).symm.trans
          (hheld slot hslot))
    rw [hother, heq]

end Layout

-- =============================================================== items

/-- The slot holds what the value means. -/
def Slot.Holds (slot : Slot State) (filled : State) (value : Tree) :
    Prop :=
  ∃ meant, slot.means? value = some meant ∧ slot.get filled = some meant

/-- A slot that is filled holds what means its contents. -/
theorem Slot.holds_iff {slot : Slot State} {filled : State} {value : Tree}
    {meant : slot.Value} (h : slot.get filled = some meant) :
    slot.Holds filled value ↔ slot.means? value = some meant := by
  constructor
  · rintro ⟨held, hmeans, hget⟩
    rw [hmeans, ← hget, h]
  · intro hmeans
    exact ⟨meant, hmeans, h⟩

/-- Items fill their slots in order and leave the others alone. -/
theorem holds_of_fillItems? {slots : List (Slot State)}
    {items : List Tree} {state filled : State}
    (hslots : slots.Pairwise Slot.Apart)
    (h : fillItems? false state slots items = some filled) :
    List.Forall₂ (fun slot item => slot.Holds filled item) slots items
      ∧ ∀ other : Slot State, (∀ slot ∈ slots, other.Apart slot) →
        other.get filled = other.get state := by
  induction slots generalizing state items with
  | nil =>
      cases items with
      | nil =>
          cases h
          exact ⟨.nil, fun _ _ => rfl⟩
      | cons => cases h
  | cons slot slots ih =>
      cases items with
      | nil => cases h
      | cons item items =>
          obtain ⟨next, hitem, hitems⟩ := Option.bind_eq_some_iff.1 h
          obtain ⟨meant, hmeans, rfl⟩ := Option.map_eq_some_iff.1 hitem
          obtain ⟨hfirst, hmore⟩ := List.pairwise_cons.1 hslots
          obtain ⟨hholds, hothers⟩ := ih hmore hitems
          refine ⟨.cons ⟨meant, hmeans, ?_⟩ hholds, fun other hother => ?_⟩
          · rw [hothers slot hfirst, slot.get_set]
          · rw [hothers other fun slot hslot =>
                hother slot (List.mem_cons_of_mem _ hslot),
              (hother slot List.mem_cons_self).get_set]

/-- Slots that all find what they hold can be filled. -/
theorem exists_fillItems? {slots : List (Slot State)} {items : List Tree}
    {filled : State} (state : State)
    (h : List.Forall₂ (fun slot item => slot.Holds filled item) slots
      items) :
    ∃ next, fillItems? false state slots items = some next := by
  induction h generalizing state with
  | nil => exact ⟨state, rfl⟩
  | @cons slot item _ _ hitem _ ih =>
      obtain ⟨meant, hmeans, -⟩ := hitem
      obtain ⟨next, hnext⟩ := ih (slot.set state meant)
      refine ⟨next, ?_⟩
      rw [fillItems?, Slot.fill?, hmeans]
      exact hnext

/-- Two relations hold along the same list if they hold together of every
element. -/
theorem exists_forall₂_and_iff {σ τ : Type*} {P Q : σ → τ → Prop}
    {xs : List σ} :
    (∃ ys, List.Forall₂ P xs ys ∧ List.Forall₂ Q xs ys)
      ↔ ∀ x ∈ xs, ∃ y, P x y ∧ Q x y := by
  constructor
  · rintro ⟨ys, hP, hQ⟩
    induction hP with
    | nil => exact nofun
    | cons hp _ ih =>
        obtain ⟨hq, hQ⟩ := List.forall₂_cons.1 hQ
        intro x hx
        rcases List.mem_cons.1 hx with rfl | hx
        · exact ⟨_, hp, hq⟩
        · exact ih hQ x hx
  · intro h
    induction xs with
    | nil => exact ⟨[], .nil, .nil⟩
    | cons x xs ih =>
        obtain ⟨y, hp, hq⟩ := h x List.mem_cons_self
        obtain ⟨ys, hP, hQ⟩ :=
          ih fun x hx => h x (List.mem_cons_of_mem _ hx)
        exact ⟨y :: ys, .cons hp hP, .cons hq hQ⟩

/-- A list fills a state exactly if the state holds what its items mean,
slot by slot. -/
theorem Layout.fillItems?_eq_some_iff {layout : Layout State}
    {items : List Tree} {state filled : State} :
    fillItems? false state layout.slots items = some filled
      ↔ List.Forall₂ (fun slot item => slot.Holds filled item)
        layout.slots items := by
  constructor
  · intro h
    exact (holds_of_fillItems? layout.apart h).1
  · intro h
    obtain ⟨other, hother⟩ := exists_fillItems? state h
    have hboth := exists_forall₂_and_iff.1
      ⟨items, (holds_of_fillItems? layout.apart hother).1, h⟩
    -- both states hold what the same items mean
    have heq : other = filled := layout.ext fun slot hslot => by
      obtain ⟨item, ⟨meant, hmeans, hget⟩, ⟨meant', hmeans', hget'⟩⟩ :=
        hboth slot hslot
      rw [hget, hget', ← hmeans, hmeans']
    rw [hother, heq]

-- ============================================================= records

/-- The record of a state, if it could be filled and lacks nothing. -/
def Shape.finish? (shape : Shape State α) (filled? : Option State) :
    Option α :=
  filled?.bind fun filled => (shape.finish filled).toOption

/-- What values mean as records of a shape. -/
def Shape.means? (shape : Shape State α) (slots : List (Slot State)) :
    Tree → Option α
  | .object members =>
      shape.finish? (fillMembers? slots shape.blank members)
  | .list items =>
      shape.finish? (fillItems? shape.mayEndEarly shape.blank slots items)
  | _ => none

end LinkOrder.Json
