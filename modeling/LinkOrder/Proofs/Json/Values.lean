/-
Readers of values are faithful to the grammar: where a text spells a value
they give what the value means, or fail if it means nothing of the type
that is read, and they leave what stands behind it; and whatever they read
is a value that means what they give (`Faithful`). So what a reader makes
of a text is settled by the value that the text spells and by its meaning
(`Faithful.readWhole_iff`).

A faithful reader of items makes a faithful reader of lists
(`faithful_list`); numbers and strings come down to the numerals and
strings of the grammar.
-/
import LinkOrder.Proofs.Json.Skipping

namespace LinkOrder.Json

variable {α β : Type} {text rest core gap inner : List Char} {c : Char}
  {tree : Tree}

-- ============================================================ meanings

/-- The number of 64 bits that a value is. -/
def Tree.natural? : Tree → Option UInt64
  | .number literal => literal.natural?
  | _ => none

/-- The value is a numeral without a sign for exactly this number. -/
def Tree.IsNumber (tree : Tree) (number : UInt64) : Prop :=
  ∃ literal : Literal, tree = .number literal ∧ literal.minus = false
    ∧ literal.integer? = some (number.toNat : Int)

/-- What a string says. -/
def Tree.string? : Tree → Option String
  | .string pieces => stringOf? pieces
  | _ => none

/-- What the items of a list mean, if all of them mean something. -/
def Tree.list? (item? : Tree → Option α) : Tree → Option (List α)
  | .list items => items.mapM item?
  | _ => none

/-- A reader that reads what values mean, and nothing else. -/
structure Faithful (reader : Reader α) (means? : Tree → Option α) :
    Prop where
  reads : ∀ {gap core rest : List Char} {tree : Tree}, Blank gap →
    Spells core tree → Ends rest →
      (reader.read (gap ++ (core ++ rest))).toOption
        = (means? tree).map (·, rest)
  spelled : ∀ {text rest : List Char} {value : α},
    reader.read text = .ok (value, rest) →
      ∃ gap core tree, Blank gap ∧ Spells core tree
        ∧ text = gap ++ (core ++ rest) ∧ means? tree = some value

-- ============================================================= results

/-- To forget why a reading fails keeps what it gives. -/
theorem toOption_eq_some_iff {ε : Type} {x : Except ε α} {a : α} :
    x.toOption = some a ↔ x = .ok a := by
  cases x with
  | error e => exact iff_of_false nofun nofun
  | ok b =>
      show some b = some a ↔ _
      rw [Option.some.injEq, Except.ok.injEq]

/-- A result that is known but for its fault. -/
theorem cases_of_toOption {ε : Type} {x : Except ε (α × List Char)}
    {means : Option α} (h : x.toOption = means.map (·, rest)) :
    (∃ fault, x = .error fault) ∧ means = none
      ∨ ∃ value, x = .ok (value, rest) ∧ means = some value := by
  cases means with
  | none =>
      cases x with
      | error fault => exact .inl ⟨⟨fault, rfl⟩, rfl⟩
      | ok result => cases h
  | some value => exact .inr ⟨value, toOption_eq_some_iff.1 h, rfl⟩

/-- So a reading may be known by what it accepts alone. -/
theorem toOption_eq_map {ε : Type} {x : Except ε (α × List Char)}
    {means : Option α}
    (h : ∀ a left, x = .ok (a, left) ↔ means = some a ∧ rest = left) :
    x.toOption = means.map (·, rest) := by
  cases means with
  | none =>
      cases x with
      | error e => rfl
      | ok result => exact absurd ((h _ _).1 rfl).1 nofun
  | some a => exact toOption_eq_some_iff.2 ((h a rest).2 ⟨rfl, rfl⟩)

-- ============================================================= numbers

/-- What is read of a numeral is its exact value. -/
theorem Literal.natural?_eq_some_iff {literal : Literal}
    {number : UInt64} :
    literal.natural? = some number
      ↔ literal.minus = false
        ∧ literal.integer? = some (number.toNat : Int) := by
  have hvalue : (if literal.wholeValue < UInt64.size then
        some (UInt64.ofNat literal.wholeValue) else none) = some number
      ↔ literal.wholeValue = number.toNat := by
    constructor
    · intro h
      split at h
      · next hlt =>
          cases h
          exact (UInt64.toNat_ofNat_of_lt hlt).symm
      · cases h
    · intro h
      rw [h, if_pos number.toNat_lt_size, UInt64.ofNat_toNat]
  unfold Literal.natural? Literal.integer?
  cases literal.minus with
  | true => simp
  | false =>
      cases literal.places.isSome with
      | true => simp
      | false =>
          cases literal.power.isSome with
          | true => simp
          | false => simpa [Int.natCast_inj] using hvalue

/-- A value means a number if it is a numeral of exactly that number. -/
theorem Tree.natural?_eq_some_iff {tree : Tree} {number : UInt64} :
    tree.natural? = some number ↔ tree.IsNumber number := by
  unfold Tree.natural? Tree.IsNumber
  cases tree with
  | number literal =>
      simp only [Literal.natural?_eq_some_iff, Tree.number.injEq,
        exists_eq_left']
  | null => exact iff_of_false nofun (by rintro ⟨_, ⟨⟩, _⟩)
  | boolean => exact iff_of_false nofun (by rintro ⟨_, ⟨⟩, _⟩)
  | string => exact iff_of_false nofun (by rintro ⟨_, ⟨⟩, _⟩)
  | list => exact iff_of_false nofun (by rintro ⟨_, ⟨⟩, _⟩)
  | object => exact iff_of_false nofun (by rintro ⟨_, ⟨⟩, _⟩)

/-- What starts neither with a digit nor with a minus is no number. -/
theorem readNatural_refused (htext : skipSpace text = c :: inner)
    (hminus : c ≠ '-') (hdigit : isDigit c = false) :
    (readNatural text).toOption = none := by
  unfold readNatural
  rw [htext]
  simp [hdigit, Except.toOption]

/-- A minus is taken, and the rest is read knowing of it. -/
theorem readNatural_negative (htext : skipSpace text = '-' :: inner) :
    readNatural text = readUnsignedNatural true inner := by
  unfold readNatural
  rw [htext]
  rfl

/-- A digit is left for the reader of numerals. -/
theorem readNatural_digit (htext : skipSpace text = c :: inner)
    (hdigit : isDigit c) :
    readNatural text = readUnsignedNatural false (c :: inner) := by
  have hminus : c ≠ '-' := by
    rintro rfl
    cases hdigit
  unfold readNatural
  rw [htext]
  simp [hdigit]

/-- A numeral where a number is read. -/
theorem readNatural_text (literal : Literal) (hgap : Blank gap)
    (rest : List Char) :
    readNatural (gap ++ (literal.text ++ rest))
      = readUnsignedNatural literal.minus (literal.unsigned ++ rest) := by
  obtain ⟨c, more, htext, hcases⟩ := literal.exists_cons
  rw [htext, List.cons_append]
  rcases hcases with ⟨hminus, rfl, rfl⟩ | ⟨hminus, hc, hmore⟩
  · rw [hminus]
    exact readNatural_negative (skipSpace_mark hgap rfl _)
  · have hopens : Tree.Opens (.number literal) c := by
      simpa [Tree.Opens, hminus] using hc
    rw [hminus, ← hmore]
    exact readNatural_digit (skipSpace_mark hgap hopens.not_mark.1 _) hc

/-- What is read as a number is a numeral of it, with space in front. -/
theorem exists_of_readNatural {value : UInt64}
    (h : readNatural text = .ok (value, rest)) :
    ∃ gap literal, Blank gap ∧ text = gap ++ (Literal.text literal ++ rest)
      ∧ literal.natural? = some value := by
  obtain ⟨gap, hgap, htext⟩ := exists_blank text
  unfold readNatural at h
  split at h
  · cases h
  · next inner hminus =>
      obtain ⟨literal, hsign, rfl, hvalue⟩ :=
        exists_of_readUnsignedNatural h
      refine ⟨gap, literal, hgap, ?_, hvalue⟩
      rw [htext, hminus, Literal.text, hsign]
      rfl
  · next c inner hsign hdigit =>
      split at h
      · obtain ⟨literal, hminus, hinner, hvalue⟩ :=
          exists_of_readUnsignedNatural h
        refine ⟨gap, literal, hgap, ?_, hvalue⟩
        rw [htext, hdigit, hinner, Literal.text, hminus]
        rfl
      · cases h

/-- Numbers of 64 bits are read as what they are. -/
theorem faithful_natural : Faithful Reader.natural Tree.natural? where
  reads {gap core rest tree} hgap hspells hrest := by
    show (readNatural (gap ++ (core ++ rest))).toOption = _
    have hrefused : ∀ c inner, core ++ rest = c :: inner →
        isSpace c = false → c ≠ '-' → isDigit c = false →
        (readNatural (gap ++ (core ++ rest))).toOption = none := by
      intro c inner hcore hspace hminus hdigit
      rw [hcore]
      exact readNatural_refused (skipSpace_mark hgap hspace _) hminus hdigit
    cases hspells with
    | number literal =>
        refine toOption_eq_map fun value left => ?_
        rw [readNatural_text literal hgap]
        exact readUnsignedNatural_unsigned_iff literal hrest
    | null => exact hrefused 'n' _ rfl rfl (by decide) rfl
    | true => exact hrefused 't' _ rfl rfl (by decide) rfl
    | false => exact hrefused 'f' _ rfl rfl (by decide) rfl
    | string => exact hrefused '"' _ rfl rfl (by decide) rfl
    | list => exact hrefused '[' _ rfl rfl (by decide) rfl
    | object => exact hrefused '\x7b' _ rfl rfl (by decide) rfl
  spelled h := by
    obtain ⟨gap, literal, hgap, htext, hvalue⟩ := exists_of_readNatural h
    exact ⟨gap, _, .number literal, hgap, .number literal, htext, hvalue⟩

-- ============================================================= strings

/-- Behind a quote stands a string. -/
theorem readText_quote (htext : skipSpace text = '"' :: inner) :
    (readText text).toOption
      = (readString inner).toOption.map fun result =>
          (String.ofList result.1, result.2) := by
  unfold readText
  rw [htext]
  simp only
  cases readString inner with
  | error fault => rfl
  | ok result => rfl

/-- Without one there is none. -/
theorem readText_refused (htext : skipSpace text = c :: inner)
    (hquote : c ≠ '"') : (readText text).toOption = none := by
  unfold readText
  rw [htext]
  split
  · next heq => cases heq
  · next heq =>
      cases heq
      exact absurd rfl hquote
  · rfl

/-- Strings are read as what they say. -/
theorem faithful_string : Faithful Reader.string Tree.string? where
  reads {gap core rest tree} hgap hspells hrest := by
    show (readText (gap ++ (core ++ rest))).toOption = _
    -- whatever does not begin with a quote is refused
    have hrefused : ∀ c inner, core ++ rest = c :: inner →
        isSpace c = false → c ≠ '"' →
        (readText (gap ++ (core ++ rest))).toOption = none := by
      intro c inner hcore hspace hquote
      rw [hcore]
      exact readText_refused (skipSpace_mark hgap hspace _) hquote
    have hspells' := hspells
    cases hspells with
    | string pieces =>
        rw [List.cons_append, List.append_assoc, List.singleton_append,
          readText_quote (skipSpace_mark hgap rfl _), toOption_readString]
        show _ = (stringOf? pieces).map _
        unfold stringOf?
        rw [Option.map_map, Option.map_map]
        rfl
    | number literal =>
        obtain ⟨c, more, htext, hopens⟩ := hspells'.exists_cons
        refine hrefused c (more ++ rest) ?_ hopens.not_mark.1 ?_
        · rw [htext, List.cons_append]
        · rintro rfl
          obtain ⟨_, heq⟩ := hopens.exists_string
          cases heq
    | null => exact hrefused 'n' _ rfl rfl (by decide)
    | true => exact hrefused 't' _ rfl rfl (by decide)
    | false => exact hrefused 'f' _ rfl rfl (by decide)
    | list => exact hrefused '[' _ rfl rfl (by decide)
    | object => exact hrefused '\x7b' _ rfl rfl (by decide)
  spelled {text rest value} h := by
    obtain ⟨gap, hgap, htext⟩ := exists_blank text
    change readText text = _ at h
    unfold readText at h
    split at h
    · cases h
    · next inner hquote =>
        split at h
        · cases h
        · next hread =>
            cases h
            obtain ⟨pieces, rfl, hsaid⟩ := rawText_of_readString hread
            refine ⟨gap, _, .string pieces, hgap, .string pieces, ?_, ?_⟩
            · rw [htext, hquote, List.cons_append, List.append_assoc]
              rfl
            · show (meaning? pieces).map _ = _
              rw [hsaid]
              rfl
    · cases h

-- =============================================================== marks

section
variable {first : Bool} {body start : List Char} {item : Tree}
  {items : List Tree}

/-- Behind the last item the list is left. -/
theorem SpellsItems.nextItem_nil (h : SpellsItems first body [])
    (rest : List Char) :
    nextItem first (body ++ rest) = .ok none
      ∧ closeList (body ++ rest) = .ok rest := by
  cases h with
  | close hgap =>
      have htext := skipSpace_mark hgap (c := ']') rfl rest
      rw [List.append_assoc, List.singleton_append]
      unfold nextItem closeList
      rw [htext]
      exact ⟨rfl, rfl⟩

/-- Where an item stands it is next, and the list is not left. -/
theorem SpellsItems.nextItem_cons (h : SpellsItems first body (item :: items))
    (rest : List Char) :
    (∃ core more, Spells core item ∧ SpellsItems false more items
        ∧ nextItem first (body ++ rest)
          = .ok (some (core ++ (more ++ rest))))
      ∧ ∃ fault, closeList (body ++ rest) = .error fault := by
  cases h with
  | @first gap core more _ _ hgap hitem hmore =>
      obtain ⟨c, left, htext, rfl, hopens⟩ :=
        hitem.skipSpace_append hgap (more ++ rest)
      obtain ⟨-, hcomma, hclose, -⟩ := hopens.not_mark
      rw [List.append_assoc, List.append_assoc]
      refine ⟨⟨_, more, hitem, hmore, ?_⟩, ?_⟩
      · unfold nextItem
        rw [htext]
        simp
      · unfold closeList
        rw [htext]
        simp [hclose, hcomma]
  | @next before after core more _ _ hbefore hafter hitem hmore =>
      obtain ⟨c, left, htext, rfl, hopens⟩ :=
        hitem.skipSpace_append hafter (more ++ rest)
      obtain ⟨-, -, hclose, -⟩ := hopens.not_mark
      rw [List.append_assoc, List.cons_append, List.append_assoc,
        List.append_assoc]
      rw [List.cons_append] at htext ⊢
      have hcomma := skipSpace_mark hbefore (c := ',') rfl
        (after ++ c :: (left ++ (more ++ rest)))
      refine ⟨⟨_, more, hitem, hmore, ?_⟩, ?_⟩
      · unfold nextItem
        rw [hcomma]
        simp [htext, hclose]
      · unfold closeList
        rw [hcomma]
        simp [htext, hclose]

/-- What was closed as a list had a bracket there. -/
theorem exists_of_closeList (h : closeList text = .ok rest) :
    ∃ gap, Blank gap ∧ text = gap ++ ']' :: rest := by
  obtain ⟨gap, hgap, htext⟩ := exists_blank text
  unfold closeList at h
  split at h
  · cases h
  · next hclose =>
      cases h
      rw [hclose] at htext
      exact ⟨gap, hgap, htext⟩
  · split at h <;> cases h
  · cases h

/-- What is next is an item, if it spells one. -/
theorem spellsItems_of_nextItem {more : List Char}
    (h : nextItem first text = .ok (some start)) (hgap : Blank gap)
    (hitem : Spells core item) (hmore : SpellsItems false more items)
    (hstart : start = gap ++ (core ++ (more ++ rest))) :
    ∃ body, SpellsItems first body (item :: items)
      ∧ text = body ++ rest := by
  obtain ⟨before, hbefore, htext⟩ := exists_blank text
  unfold nextItem at h
  split at h
  · cases h
  · cases h
  · next c inner _ hnext =>
      rw [hnext] at htext
      split at h
      · next hfirst =>
          cases h
          subst hfirst
          refine ⟨_, .first (blank_append hbefore hgap) hitem hmore, ?_⟩
          rw [htext, hstart]
          simp only [List.append_assoc]
      · next hfirst =>
          have hfalse : first = false := by simpa using hfirst
          subst hfalse
          split at h
          · next hcomma =>
              obtain ⟨after, hafter, hinner⟩ := exists_blank inner
              split at h
              · cases h
              · cases h
              · cases h
                refine ⟨_, .next hbefore (blank_append hafter hgap) hitem
                  hmore, ?_⟩
                rw [htext, hcomma, hinner, hstart]
                simp only [List.append_assoc, List.cons_append]
          · cases h

end

-- ============================================================= closing

/-- What is read up to the closing mark, and left behind it. -/
def closedBy (close : List Char → Except Fault (List Char))
    (result : Result α) : Option (α × List Char) :=
  result.toOption.bind fun (value, ending) =>
    (close ending).toOption.map (value, ·)

/-- Why a list is not closed does not matter here, only whether it is. -/
theorem toOption_closed (onFault : Fault → Fault)
    (close : List Char → Except Fault (List Char)) (result : Result α) :
    (match result with
      | .error fault => .error (onFault fault)
      | .ok (value, ending) =>
          (close ending).map (value, ·) : Result α).toOption
      = closedBy close result := by
  cases result with
  | error fault => rfl
  | ok read =>
      show ((close read.2).map _).toOption = (close read.2).toOption.map _
      cases close read.2 with
      | error fault => rfl
      | ok left => rfl

/-- Something is read and closed if it is read and what is left can be
closed. -/
theorem closedBy_eq_some_iff {close : List Char → Except Fault (List Char)}
    {result : Result α} {value : α} :
    closedBy close result = some (value, rest)
      ↔ ∃ ending, result = .ok (value, ending)
        ∧ close ending = .ok rest := by
  unfold closedBy
  simp only [Option.bind_eq_some_iff, Option.map_eq_some_iff,
    toOption_eq_some_iff]
  constructor
  · rintro ⟨⟨_, ending⟩, hresult, _, hclose, ⟨⟩⟩
    exact ⟨ending, hresult, hclose⟩
  · rintro ⟨ending, hresult, hclose⟩
    exact ⟨_, hresult, rest, hclose, rfl⟩

-- =============================================================== lists

section
variable {item : Reader α} {item? : Tree → Option α}

/-- One item after the other, without what termination needs. -/
theorem readItems_eq (item : Reader α) (first : Bool) (text : List Char) :
    readItems item first text = match nextItem first text with
      | .error fault => .error fault
      | .ok none => .ok ([], text)
      | .ok (some start) =>
          match item.read start with
          | .error fault => .error fault
          | .ok (value, rest) =>
              match readItems item false rest with
              | .error fault => .error fault
              | .ok (more, rest) => .ok (value :: more, rest) := by
  rw [readItems.eq_def]
  grind

/-- To put a value in front of what is read does not change where it
ends. -/
theorem closedBy_cons (close : List Char → Except Fault (List Char))
    (value : α) (result : Result (List α)) :
    closedBy close (match result with
        | .error fault => .error fault
        | .ok (more, rest) => .ok (value :: more, rest))
      = (closedBy close result).map fun (more, rest) =>
        (value :: more, rest) := by
  cases result with
  | error fault => rfl
  | ok read =>
      show (close read.2).toOption.map _
        = ((close read.2).toOption.map _).map _
      rw [Option.map_map]
      rfl

/-- The items of a list are read as what they mean. -/
theorem readItems_spells (hitem : Faithful item item?) {first : Bool}
    {body : List Char} {items : List Tree}
    (h : SpellsItems first body items) (rest : List Char) :
    closedBy closeList (readItems item first (body ++ rest))
      = (items.mapM item?).map (·, rest) := by
  induction items generalizing first body with
  | nil =>
      obtain ⟨hnext, hclose⟩ := h.nextItem_nil rest
      rw [readItems_eq, hnext]
      show (closeList _).toOption.map _ = _
      rw [hclose]
      rfl
  | cons tree items ih =>
      obtain ⟨⟨core, more, hspells, hmore, hnext⟩, -⟩ := h.nextItem_cons rest
      have hread := hitem.reads blank_nil hspells (hmore.ends rest)
      rw [List.nil_append] at hread
      rw [readItems_eq, hnext, List.mapM_cons]
      dsimp only
      obtain ⟨⟨fault, hfault⟩, hmeans⟩ | ⟨value, hvalue, hmeans⟩ :=
        cases_of_toOption hread
      · rw [hfault, hmeans]
        rfl
      · rw [hvalue, hmeans]
        dsimp only
        rw [closedBy_cons, ih hmore]
        cases items.mapM item? with
        | none => rfl
        | some values => rfl

/-- What is read as items of a list and left behind its closing mark is
spelled by the text between. -/
theorem spells_of_readItems (hitem : Faithful item item?) {first : Bool}
    {text ending rest : List Char} {values : List α}
    (h : readItems item first text = .ok (values, ending))
    (hclose : closeList ending = .ok rest) :
    ∃ body items, SpellsItems first body items ∧ text = body ++ rest
      ∧ items.mapM item? = some values := by
  fun_induction readItems item first text generalizing values with
  | case1 => cases h
  | case2 first text hnext =>
      cases h
      obtain ⟨gap, hgap, rfl⟩ := exists_of_closeList hclose
      refine ⟨_, [], .close hgap, ?_, rfl⟩
      rw [List.append_assoc, List.singleton_append]
  | case3 => cases h
  | case4 => cases h
  | case5 first text start hnext value left hread _ more final hmore ih =>
      cases h
      obtain ⟨body, items, hbody, rfl, hvalues⟩ := ih hmore
      obtain ⟨gap, core, tree, hgap, hspells, hstart, hmeans⟩ :=
        hitem.spelled hread
      obtain ⟨whole, hwhole, htext⟩ :=
        spellsItems_of_nextItem hnext hgap hspells hbody hstart
      refine ⟨whole, tree :: items, hwhole, htext, ?_⟩
      rw [List.mapM_cons, hmeans, hvalues]
      rfl

/-- Behind a bracket stand items. -/
theorem readList_bracket (htext : skipSpace text = '[' :: inner) :
    (readList item text).toOption
      = closedBy closeList (readItems item true inner) := by
  have hlist : readList item text = match readItems item true inner with
      | .error fault => .error fault
      | .ok (items, rest) => (closeList rest).map (items, ·) := by
    unfold readList
    rw [htext]
    rfl
  rw [hlist]
  cases readItems item true inner with
  | error fault => rfl
  | ok read => exact toOption_closed id closeList (.ok read)

/-- Without one there is no list. -/
theorem readList_refused (htext : skipSpace text = c :: inner)
    (hbracket : c ≠ '[') : (readList item text).toOption = none := by
  unfold readList
  rw [htext]
  split
  · next heq => cases heq
  · next heq =>
      cases heq
      exact absurd rfl hbracket
  · rfl

/-- Lists of values that are read as what they mean are read so. -/
theorem faithful_list (hitem : Faithful item item?) :
    Faithful (Reader.list item) (Tree.list? item?) where
  reads {gap core rest tree} hgap hspells hrest := by
    show (readList item (gap ++ (core ++ rest))).toOption = _
    obtain ⟨c, more, htext, hcore, hopens⟩ :=
      hspells.skipSpace_append hgap rest
    by_cases hc : c = '['
    · subst hc
      obtain ⟨items, rfl⟩ := hopens.exists_list
      cases hspells with
      | list hitems =>
          cases hcore
          rw [readList_bracket htext]
          exact readItems_spells hitem hitems rest
    · rw [readList_refused htext hc]
      cases tree with
      | list items =>
          cases hopens
          exact absurd rfl hc
      | null => rfl
      | boolean => rfl
      | number => rfl
      | string => rfl
      | object => rfl
  spelled {text rest values} h := by
    obtain ⟨gap, hgap, htext⟩ := exists_blank text
    have hread : (readList item text).toOption = some (values, rest) :=
      congrArg Except.toOption h
    cases hstart : skipSpace text with
    | nil =>
        unfold readList at hread
        rw [hstart] at hread
        cases hread
    | cons c inner =>
        rw [hstart] at htext
        by_cases hc : c = '['
        · subst hc
          rw [readList_bracket hstart, closedBy_eq_some_iff] at hread
          obtain ⟨ending, hitems, hclose⟩ := hread
          obtain ⟨body, items, hbody, rfl, hvalues⟩ :=
            spells_of_readItems hitem hitems hclose
          exact ⟨gap, _, .list items, hgap, .list hbody, htext, hvalues⟩
        · rw [readList_refused hstart hc] at hread
          cases hread

end

-- ============================================================== wholes

/-- A faithful reader stays one where its values are mapped. -/
theorem Faithful.map {reader : Reader α} {means? : Tree → Option α}
    (h : Faithful reader means?) (f : α → β) :
    Faithful (reader.map f) fun tree => (means? tree).map f where
  reads {gap core rest tree} hgap hspells hrest := by
    have hread := h.reads hgap hspells hrest
    show ((reader.read _).map _).toOption = _
    obtain ⟨⟨fault, hfault⟩, hmeans⟩ | ⟨value, hvalue, hmeans⟩ :=
      cases_of_toOption hread
    · rw [hfault, hmeans]
      rfl
    · rw [hvalue, hmeans]
      rfl
  spelled {text rest value} hmap := by
    cases hread : reader.read text with
    | error fault =>
        simp only [Reader.map, hread] at hmap
        cases hmap
    | ok result =>
        simp only [Reader.map, hread] at hmap
        cases hmap
        obtain ⟨gap, core, tree, hgap, hspells, htext, hmeans⟩ :=
          h.spelled hread
        refine ⟨gap, core, tree, hgap, hspells, htext, ?_⟩
        rw [hmeans]
        rfl

/-- Space ends a numeral. -/
theorem Blank.ends (h : Blank gap) : Ends gap := by
  have hend : Ends [] := nofun
  have hgap := ends_append h hend
  rwa [List.append_nil] at hgap

theorem Blank.skipSpace_eq (h : Blank gap) : skipSpace gap = [] := by
  rw [← List.append_nil gap, skipSpace_append h]
  rfl

/-- A text that spells a value is read as what the value means. -/
theorem Faithful.readWhole_iff {reader : Reader α}
    {means? : Tree → Option α} (h : Faithful reader means?) {text : String}
    (htext : Document text.toList tree) {value : α} :
    reader.readWhole text = .ok value ↔ means? tree = some value := by
  obtain ⟨before, core, after, hbefore, hspells, hafter, htext⟩ := htext
  have hread := h.reads hbefore hspells hafter.ends
  rw [← htext] at hread
  unfold Reader.readWhole
  dsimp only
  obtain ⟨⟨fault, hfault⟩, hmeans⟩ | ⟨meant, hmeant, hmeans⟩ :=
    cases_of_toOption hread
  · rw [hfault, hmeans]
    exact iff_of_false nofun nofun
  · rw [hmeant, hmeans]
    dsimp only
    rw [hafter.skipSpace_eq, Except.ok.injEq, Option.some.injEq]

/-- Whatever is read spells a value that means it. -/
theorem Faithful.exists_of_readWhole {reader : Reader α}
    {means? : Tree → Option α} (h : Faithful reader means?) {text : String}
    {value : α} (hread : reader.readWhole text = .ok value) :
    ∃ tree, Document text.toList tree ∧ means? tree = some value := by
  unfold Reader.readWhole at hread
  dsimp only at hread
  split at hread
  · cases hread
  · next left hvalue =>
      split at hread
      · next hend =>
          cases hread
          obtain ⟨gap, core, tree, hgap, hspells, htext, hmeans⟩ :=
            h.spelled hvalue
          obtain ⟨after, hafter, hleft⟩ := exists_blank left
          rw [hend, List.append_nil] at hleft
          subst hleft
          exact ⟨tree, ⟨gap, core, left, hgap, hspells, hafter, htext⟩,
            hmeans⟩
      · cases hread

end LinkOrder.Json
