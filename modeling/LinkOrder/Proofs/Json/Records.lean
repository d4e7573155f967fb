/-
Records are read as what objects and lists mean for their slots
(`Shape.faithful`). Members and items are read one after the other, each
by the reader of its slot, and what is skipped is a value; so a reader of
records is faithful if the readers of its fields are, and it is again fit
to be the reader of a field.
-/
import LinkOrder.Proofs.Json.Slots

namespace LinkOrder.Json

variable {State α : Type} {text rest core gap inner start : List Char}
  {c : Char} {tree : Tree}

-- =============================================================== marks

section
variable {first : Bool} {body : List Char}
  {member : List Piece × Tree} {members : List (List Piece × Tree)}

/-- Behind the last member the object is left. -/
theorem SpellsMembers.nextKey_nil (h : SpellsMembers first body [])
    (rest : List Char) :
    nextKey first (body ++ rest) = .ok none
      ∧ closeObject (body ++ rest) = .ok rest := by
  cases h with
  | close hgap =>
      have htext := skipSpace_mark hgap (c := '\x7d') rfl rest
      rw [List.append_assoc, List.singleton_append]
      unfold nextKey closeObject
      rw [htext]
      exact ⟨rfl, rfl⟩

/-- Where a member stands its key is next. -/
theorem SpellsMembers.nextKey_cons
    (h : SpellsMembers first body (member :: members))
    (rest : List Char) :
    ∃ core more, SpellsMember core member
      ∧ SpellsMembers false more members
      ∧ nextKey first (body ++ rest)
        = .ok (some (core ++ (more ++ rest))) := by
  cases h with
  | @first gap core more _ _ hgap hmember hmore =>
      refine ⟨core, more, hmember, hmore, ?_⟩
      rw [List.append_assoc, List.cons_append, List.append_assoc]
      unfold nextKey
      rw [skipSpace_mark hgap rfl]
      rfl
  | @next before after core more _ _ hbefore hafter hmember hmore =>
      refine ⟨core, more, hmember, hmore, ?_⟩
      simp only [List.append_assoc, List.cons_append]
      have hquote := skipSpace_mark hafter (c := '"') rfl
        (core ++ (more ++ rest))
      unfold nextKey
      rw [skipSpace_mark hbefore rfl]
      simp [hquote]

/-- What was closed as an object had a brace there. -/
theorem exists_of_closeObject (h : closeObject text = .ok rest) :
    ∃ gap, Blank gap ∧ text = gap ++ '\x7d' :: rest := by
  obtain ⟨gap, hgap, htext⟩ := exists_blank text
  unfold closeObject at h
  split at h
  · cases h
  · next hclose =>
      cases h
      rw [hclose] at htext
      exact ⟨gap, hgap, htext⟩
  · cases h
  · cases h

/-- Where a key is next, the rest of the object is spelled from there. -/
theorem spellsMembers_of_nextKey {more : List Char}
    (h : nextKey first text = .ok (some start))
    (hmember : SpellsMember core member)
    (hmore : SpellsMembers false more members)
    (hstart : start = core ++ (more ++ rest)) :
    ∃ body, SpellsMembers first body (member :: members)
      ∧ text = body ++ rest := by
  obtain ⟨before, hbefore, htext⟩ := exists_blank text
  unfold nextKey at h
  split at h
  · cases h
  · cases h
  · next c inner _ hnext =>
      rw [hnext] at htext
      split at h
      · next hfirst =>
          subst hfirst
          split at h
          · next hquote =>
              cases h
              refine ⟨_, .first hbefore hmember hmore, ?_⟩
              rw [htext, hquote, hstart]
              simp only [List.append_assoc, List.cons_append]
          · cases h
      · next hfirst =>
          -- after a member a comma has to come, and then a key
          have hfalse : first = false := by simpa using hfirst
          subst hfalse
          split at h
          · next hcomma =>
              obtain ⟨after, hafter, hinner⟩ := exists_blank inner
              split at h
              · cases h
              · next hquote =>
                  cases h
                  refine ⟨_, .next hbefore hafter hmember hmore, ?_⟩
                  rw [htext, hcomma, hinner, hquote, hstart]
                  simp only [List.append_assoc, List.cons_append]
              · cases h
              · cases h
          · cases h

end

-- ============================================================= members

section
variable {slots : List (Slot State)} {state next : State} {name : String}
  {before after : List Char}

/-- Fields are found by the names of their slots. -/
theorem find?_field (slots : List (Slot State)) (name : String) :
    (slots.map Slot.field).find? (·.name = name)
      = (slots.find? (·.name = name)).map Slot.field :=
  List.find?_map

/-- The value of a member goes to the slot by its name, or is skipped. -/
theorem readMember_spells (hbefore : Blank before) (hafter : Blank after)
    (hvalue : Spells core tree) (hrest : Ends rest) :
    (readMember (slots.map Slot.field) state name
        (before ++ ':' :: (after ++ (core ++ rest)))).toOption
      = (fillNamed? slots state name tree).map (·, rest) := by
  unfold readMember fillNamed?
  rw [find?_field]
  cases slots.find? (·.name = name) with
  | none =>
      dsimp only [Option.map_none]
      rw [readColon_append hbefore]
      dsimp only
      rw [skipValue_spells hvalue hafter hrest]
      rfl
  | some slot =>
      dsimp only [Option.map_some]
      show (if (slot.get state).isSome then _ else _ : Result State).toOption
        = _
      split
      · rfl
      · rw [readColon_append hbefore]
        exact (slot.faithful.map (slot.set state)).reads hafter hvalue hrest

/-- A member that is taken has a value, and its slot takes it. -/
theorem spells_of_readMember
    (h : readMember (slots.map Slot.field) state name text
      = .ok (next, rest)) :
    ∃ before after core tree, Blank before ∧ Blank after
      ∧ Spells core tree ∧ text = before ++ ':' :: (after ++ (core ++ rest))
      ∧ fillNamed? slots state name tree = some next := by
  unfold readMember at h
  rw [find?_field] at h
  unfold fillNamed?
  -- a member of no field is skipped as a value, the others are read
  cases hfind : slots.find? (·.name = name) with
  | none =>
      rw [hfind] at h
      dsimp only [Option.map_none] at h
      split at h
      · cases h
      · next after hcolon =>
          obtain ⟨before, hbefore, rfl⟩ := exists_of_readColon hcolon
          cases hskip : skipValue after with
          | error fault =>
              rw [hskip] at h
              cases h
          | ok left =>
              rw [hskip] at h
              cases h
              obtain ⟨gap, core, tree, hgap, hspells, rfl⟩ :=
                spells_of_skipValue hskip
              exact ⟨before, gap, core, tree, hbefore, hgap, hspells, rfl,
                rfl⟩
  | some slot =>
      rw [hfind] at h
      dsimp only [Option.map_some] at h
      split at h
      · cases h
      · next hfree =>
          split at h
          · cases h
          · next after hcolon =>
              obtain ⟨before, hbefore, rfl⟩ := exists_of_readColon hcolon
              obtain ⟨gap, core, tree, hgap, hspells, rfl, hmeans⟩ :=
                (slot.faithful.map (slot.set state)).spelled h
              refine ⟨before, gap, core, tree, hbefore, hgap, hspells, rfl,
                ?_⟩
              exact (if_neg hfree).trans hmeans

end

-- ============================================================= objects

section
variable {shape : Shape State α} {slots : List (Slot State)} {first : Bool}
  {body ending : List Char} {state : State} {record : α}

/-- Why a record is not complete does not matter here, only whether it
is. -/
theorem toOption_complete (shape : Shape State α) (filled : State)
    (rest : List Char) :
    (shape.complete filled rest).toOption
      = (shape.finish filled).toOption.map (·, rest) := by
  unfold Shape.complete
  cases shape.finish filled with
  | error reason => rfl
  | ok record => rfl

/-- A record that ends where it should is what its state gives. -/
theorem closedBy_complete {close : List Char → Except Fault (List Char)}
    (hclose : close text = .ok rest) :
    closedBy close (shape.complete state text)
      = (shape.finish? (some state)).map (·, rest) := by
  unfold closedBy Shape.finish?
  rw [toOption_complete, Option.bind_some]
  cases (shape.finish state).toOption with
  | none => rfl
  | some record =>
      show (close text).toOption.map _ = _
      rw [hclose]
      rfl

/-- The recursion of the reader without what its termination proof
needs. -/
theorem readMembers_eq (shape : Shape State α) (first : Bool)
    (state : State) (text : List Char) :
    readMembers shape first state text = match nextKey first text with
      | .error fault => .error fault
      | .ok none => shape.complete state text
      | .ok (some start) =>
          match readString start with
          | .error fault => .error fault
          | .ok (key, afterKey) =>
              match readMember shape.fields state (String.ofList key)
                afterKey with
              | .error fault => .error fault
              | .ok (state, rest) => readMembers shape false state rest := by
  rw [readMembers.eq_def]
  grind

/-- Behind its last member an object is closed. -/
theorem closedBy_readMembers_end {shape : Shape State α} {state : State}
    (hnext : nextKey first text = .ok none)
    (hclose : closeObject text = .ok rest) :
    closedBy closeObject (readMembers shape first state text)
      = (shape.finish? (some state)).map (·, rest) := by
  rw [readMembers_eq, hnext]
  exact closedBy_complete hclose

/-- A member is read by its key, and then the others. -/
theorem closedBy_readMembers_member {shape : Shape State α}
    {state : State} {key : List Piece}
    (hnext : nextKey first text
      = .ok (some (rawText key ++ '"' :: rest))) :
    closedBy closeObject (readMembers shape first state text)
      = (stringOf? key).bind fun name =>
        (readMember shape.fields state name rest).toOption.bind
          fun (next, left) =>
            closedBy closeObject (readMembers shape false next left) := by
  have hkey := toOption_readString key rest
  rw [readMembers_eq, hnext]
  dsimp only
  unfold stringOf?
  obtain ⟨⟨fault, hfault⟩, hmeans⟩ | ⟨said, hsaid, hmeans⟩ :=
    cases_of_toOption hkey
  · rw [hfault, hmeans]
    rfl
  · rw [hsaid, hmeans]
    show closedBy closeObject (match readMember _ _ _ _ with
      | .error fault => .error fault
      | .ok (state, rest) => readMembers shape false state rest)
        = (readMember _ _ _ _).toOption.bind _
    cases readMember shape.fields state (String.ofList said) rest with
    | error fault => rfl
    | ok filled => rfl

/-- The members of an object are read as what they fill. -/
theorem readMembers_spells (hfields : shape.fields = slots.map Slot.field)
    {members : List (List Piece × Tree)}
    (h : SpellsMembers first body members) (rest : List Char) :
    closedBy closeObject (readMembers shape first state (body ++ rest))
      = (shape.finish? (fillMembers? slots state members)).map
        (·, rest) := by
  -- on the members, for any state, as each of them changes it
  induction members generalizing first body state with
  | nil =>
      obtain ⟨hnext, hclose⟩ := h.nextKey_nil rest
      exact closedBy_readMembers_end hnext hclose
  | cons member members ih =>
      obtain ⟨core, more, hmember, hmore, hnext⟩ := h.nextKey_cons rest
      cases hmember with
      | @mk before after core key value hbefore hafter hvalue =>
          simp only [List.append_assoc, List.cons_append] at hnext
          rw [closedBy_readMembers_member hnext, hfields, fillMembers?,
            List.foldlM_cons, fillMember?]
          cases stringOf? key with
          | none => rfl
          | some name =>
              rw [Option.bind_some, readMember_spells hbefore hafter hvalue
                (hmore.ends rest)]
              show _ = (shape.finish?
                ((fillNamed? slots state name value).bind _)).map _
              cases fillNamed? slots state name value with
              | none => rfl
              | some next => exact ih hmore

/-- What is read of an object that is closed is what its members fill. -/
theorem spells_of_readMembers (hfields : shape.fields = slots.map Slot.field)
    (h : readMembers shape first state text = .ok (record, ending))
    (hclose : closeObject ending = .ok rest) :
    ∃ body members, SpellsMembers first body members ∧ text = body ++ rest
      ∧ shape.finish? (fillMembers? slots state members)
        = some record := by
  fun_induction readMembers shape first state text with
  | case1 => cases h
  | case2 first state text hnext =>
      obtain ⟨gap, hgap, htext⟩ := exists_of_closeObject hclose
      have hfinish := congrArg Except.toOption h
      rw [toOption_complete] at hfinish
      obtain ⟨_, hrecord, ⟨⟩⟩ := Option.map_eq_some_iff.1 hfinish
      refine ⟨_, [], .close hgap, ?_, hrecord⟩
      rw [htext, List.append_assoc, List.singleton_append]
  | case3 => cases h
  | case4 => cases h
  | case5 first state text start hnext said after hkey next left hmember
      _ _ _ ih =>
      obtain ⟨body, members, hbody, rfl, hfilled⟩ := ih h
      obtain ⟨key, rfl, hsaid⟩ := rawText_of_readString hkey
      rw [hfields] at hmember
      obtain ⟨before, behind, core, value, hbefore, hbehind, hvalue, rfl,
        hnamed⟩ := spells_of_readMember hmember
      have hspells : SpellsMember _ (key, value) :=
        .mk hbefore hbehind hvalue
      -- the key and the value make one member of the grammar
      have hstart : rawText key ++ '"' :: (before ++ ':' ::
            (behind ++ (core ++ (body ++ rest))))
          = rawText key ++ '"' :: (before ++ ':' :: (behind ++ core))
            ++ (body ++ rest) := by
        simp only [List.append_assoc, List.cons_append]
      obtain ⟨whole, hwhole, htext⟩ :=
        spellsMembers_of_nextKey hnext hspells hbody hstart
      refine ⟨whole, (key, value) :: members, hwhole, htext, ?_⟩
      rw [fillMembers?, List.foldlM_cons, fillMember?, stringOf?, hsaid]
      show shape.finish? ((fillNamed? _ _ _ _).bind _) = _
      rw [hnamed]
      exact hfilled

-- =============================================================== lists

/-- A record that does not end where it should is none. -/
theorem closedBy_complete_refused {fault : Fault}
    {close : List Char → Except Fault (List Char)}
    (hclose : close text = .error fault) :
    closedBy close (shape.complete state text) = none := by
  unfold closedBy
  rw [toOption_complete]
  cases (shape.finish state).toOption with
  | none => rfl
  | some record =>
      show (close text).toOption.map _ = none
      rw [hclose]
      rfl

/-- An item is read into its slot, and then the others. -/
theorem closedBy_readFields_item {slot : Slot State} {count : Nat}
    {fields : List (Field State)} (hitem : Spells core tree)
    (hrest : Ends rest)
    (hnext : nextItem (count = 0) text = .ok (some (core ++ rest))) :
    closedBy closeList
        (readFields shape count state text (slot.field :: fields))
      = (slot.fill? state tree).bind fun next =>
        closedBy closeList
          (readFields shape (count + 1) next rest fields) := by
  have hread := (slot.faithful.map (slot.set state)).reads blank_nil hitem
    hrest
  change ((slot.field.read state).read _).toOption
    = (slot.fill? state tree).map _ at hread
  rw [List.nil_append] at hread
  rw [readFields.eq_def]
  dsimp only
  rw [hnext]
  dsimp only
  obtain ⟨⟨fault, hfault⟩, hfill⟩ | ⟨next, hnext, hfill⟩ :=
    cases_of_toOption hread
  · rw [hfault, hfill]
    rfl
  · rw [hnext, hfill]
    rfl

/-- The fields of a list that is closed are read as what its items
fill. -/
theorem readFields_spells {slots : List (Slot State)} {count : Nat}
    {items : List Tree} (h : SpellsItems (count = 0) body items)
    (rest : List Char) :
    closedBy closeList
        (readFields shape count state (body ++ rest)
          (slots.map Slot.field))
      = (shape.finish?
          (fillItems? shape.mayEndEarly state slots items)).map
        (·, rest) := by
  induction slots generalizing count state body items with
  | nil =>
      cases items with
      | nil => exact closedBy_complete (h.nextItem_nil rest).2
      | cons item items =>
          obtain ⟨-, fault, hclose⟩ := h.nextItem_cons rest
          exact closedBy_complete_refused hclose
  | cons slot slots ih =>
      rw [List.map_cons]
      cases items with
      | nil =>
          obtain ⟨hnext, hclose⟩ := h.nextItem_nil rest
          rw [readFields.eq_def, fillItems?]
          dsimp only
          rw [hnext]
          dsimp only
          cases shape.mayEndEarly with
          | true => exact closedBy_complete hclose
          | false => rfl
      | cons item items =>
          obtain ⟨⟨core, more, hitem, hmore, hnext⟩, -⟩ :=
            h.nextItem_cons rest
          rw [closedBy_readFields_item hitem (hmore.ends rest) hnext,
            fillItems?]
          cases slot.fill? state item with
          | none => rfl
          | some next => exact ih hmore

/-- What is read of a list that is closed is what its items fill. -/
theorem spells_of_readFields {slots : List (Slot State)} {count : Nat}
    (h : readFields shape count state text (slots.map Slot.field)
      = .ok (record, ending)) (hclose : closeList ending = .ok rest) :
    ∃ body items, SpellsItems (count = 0) body items ∧ text = body ++ rest
      ∧ shape.finish? (fillItems? shape.mayEndEarly state slots items)
        = some record := by
  have hend : ∀ {count : Nat} {state : State} {text : List Char},
      shape.complete state text = .ok (record, ending) →
        ∃ body, SpellsItems (count = 0) body [] ∧ text = body ++ rest
          ∧ shape.finish? (some state) = some record := by
    intro count state text hcomplete
    obtain ⟨gap, hgap, htext⟩ := exists_of_closeList hclose
    have hfinish := congrArg Except.toOption hcomplete
    rw [toOption_complete] at hfinish
    obtain ⟨_, hrecord, ⟨⟩⟩ := Option.map_eq_some_iff.1 hfinish
    refine ⟨_, .close hgap, ?_, hrecord⟩
    rw [htext, List.append_assoc, List.singleton_append]
  -- one field a step; the reading may also stop short of the last
  induction slots generalizing count state text with
  | nil =>
      obtain ⟨body, hbody, htext, hrecord⟩ := hend h
      exact ⟨body, [], hbody, htext, hrecord⟩
  | cons slot slots ih =>
      rw [List.map_cons, readFields.eq_def] at h
      dsimp only at h
      split at h
      · cases h
      · split at h
        · next hmay =>
            obtain ⟨body, hbody, htext, hrecord⟩ := hend h
            refine ⟨body, [], hbody, htext, ?_⟩
            rw [fillItems?, if_pos hmay]
            exact hrecord
        · cases h
      · next start hnext =>
          split at h
          · cases h
          · next next left hread =>
              obtain ⟨body, items, hbody, rfl, hrecord⟩ := ih h
              obtain ⟨gap, core, item, hgap, hitem, hstart, hfill⟩ :=
                (slot.faithful.map (slot.set state)).spelled hread
              obtain ⟨whole, hwhole, htext⟩ :=
                spellsItems_of_nextItem hnext hgap hitem hbody hstart
              refine ⟨whole, item :: items, hwhole, htext, ?_⟩
              change slot.fill? state item = some next at hfill
              rw [fillItems?, hfill]
              exact hrecord

-- ============================================================= records

/-- A record may be written as a list of its fields. -/
theorem Shape.read_list (htext : skipSpace text = '[' :: inner) :
    (shape.read text).toOption
      = closedBy closeList
        (readFields shape 0 shape.blank inner shape.fields) := by
  unfold Shape.read
  rw [htext]
  exact toOption_closed (Fault.leaving leaveList) closeList _

/-- Or as an object of its members. -/
theorem Shape.read_object (htext : skipSpace text = '\x7b' :: inner) :
    (shape.read text).toOption
      = closedBy closeObject
        (readMembers shape true shape.blank inner) := by
  unfold Shape.read
  rw [htext]
  exact toOption_closed (Fault.leaving leaveObject) closeObject _

/-- No other value is a record. -/
theorem Shape.read_refused (htext : skipSpace text = c :: inner)
    (hlist : c ≠ '[') (hobject : c ≠ '\x7b') :
    (shape.read text).toOption = none := by
  unfold Shape.read
  rw [htext]
  simp [hlist, hobject, Except.toOption]

/-- Records are read as what objects and lists mean for their slots. -/
theorem Shape.faithful (hfields : shape.fields = slots.map Slot.field) :
    Faithful shape.reader (shape.means? slots) where
  reads {gap core rest tree} hgap hspells hrest := by
    show (shape.read (gap ++ (core ++ rest))).toOption = _
    obtain ⟨c, more, htext, hcore, hopens⟩ :=
      hspells.skipSpace_append hgap rest
    -- the first character tells a list from an object, and refuses the rest
    by_cases hlist : c = '['
    · subst hlist
      obtain ⟨items, rfl⟩ := hopens.exists_list
      cases hspells with
      | list hitems =>
          cases hcore
          have hfirst : SpellsItems (0 = 0) more items := hitems
          rw [Shape.read_list htext, hfields]
          exact readFields_spells hfirst rest
    · by_cases hobject : c = '\x7b'
      · subst hobject
        obtain ⟨members, rfl⟩ := hopens.exists_object
        cases hspells with
        | object hmembers =>
            cases hcore
            rw [Shape.read_object htext]
            exact readMembers_spells hfields hmembers rest
      · rw [Shape.read_refused htext hlist hobject]
        cases tree with
        | list => exact absurd hopens hlist
        | object => exact absurd hopens hobject
        | null => rfl
        | boolean => rfl
        | number => rfl
        | string => rfl
  spelled {text rest record} h := by
    obtain ⟨gap, hgap, htext⟩ := exists_blank text
    have hread : (shape.read text).toOption = some (record, rest) :=
      congrArg Except.toOption h
    -- the same two characters, now as the reader finds them
    cases hstart : skipSpace text with
    | nil =>
        unfold Shape.read at hread
        rw [hstart] at hread
        cases hread
    | cons c inner =>
        rw [hstart] at htext
        by_cases hlist : c = '['
        · subst hlist
          rw [Shape.read_list hstart, closedBy_eq_some_iff, hfields]
            at hread
          obtain ⟨ending, hitems, hclose⟩ := hread
          obtain ⟨body, items, hbody, rfl, hrecord⟩ :=
            spells_of_readFields hitems hclose
          exact ⟨gap, _, .list items, hgap, .list hbody, htext, hrecord⟩
        · by_cases hobject : c = '\x7b'
          · subst hobject
            rw [Shape.read_object hstart, closedBy_eq_some_iff] at hread
            obtain ⟨ending, hmembers, hclose⟩ := hread
            obtain ⟨body, members, hbody, rfl, hrecord⟩ :=
              spells_of_readMembers hfields hmembers hclose
            exact ⟨gap, _, .object members, hgap, .object hbody, htext,
              hrecord⟩
          · rw [Shape.read_refused hstart hlist hobject] at hread
            cases hread

end

end LinkOrder.Json
