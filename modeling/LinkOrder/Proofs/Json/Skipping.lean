/-
Values of JSON that are passed over. Whatever the brackets that are open
around it, a value is passed over as a whole and nothing behind it is
(`skipFrom_spells`), and whatever is passed over is a value
(`spells_of_skipFrom`). The brackets that are open matter only once the
value is over, so both are proved for any of them, by the grammar the one
and by the text that is left the other.
-/
import LinkOrder.Proofs.Json.Numerals
import LinkOrder.Proofs.Json.Strings

namespace LinkOrder.Json

variable {text rest inner core gap : List Char} {c : Char}
  {tree : Tree} {stack : List Frame}

-- =============================================================== marks

/-- A word is read letter by letter. -/
theorem readWord_append (letters rest : List Char) :
    readWord letters (letters ++ rest) = .ok rest := by
  induction letters with
  | nil => rfl
  | cons l letters ih =>
      rw [List.cons_append, readWord, if_pos rfl, ih]

/-- What was read as a word is that word. -/
theorem eq_of_readWord {letters : List Char}
    (h : readWord letters text = .ok rest) : text = letters ++ rest := by
  induction letters generalizing text with
  | nil =>
      cases h
      rfl
  | cons l letters ih =>
      cases text with
      | nil => cases h
      | cons c text =>
          rw [readWord] at h
          split at h
          · next heq => rw [ih h, heq, List.cons_append]
          · cases h

/-- A colon is read, with space in front of it. -/
theorem readColon_append (hgap : Blank gap) (rest : List Char) :
    readColon (gap ++ ':' :: rest) = .ok rest := by
  unfold readColon
  rw [skipSpace_append hgap, skipSpace_cons rfl]
  rfl

/-- What was read had a colon there. -/
theorem exists_of_readColon (h : readColon text = .ok rest) :
    ∃ gap, Blank gap ∧ text = gap ++ ':' :: rest := by
  obtain ⟨gap, hgap, htext⟩ := exists_blank text
  unfold readColon at h
  split at h
  · next heq =>
      cases h
      rw [heq] at htext
      exact ⟨gap, hgap, htext⟩
  · cases h
  · cases h

/-- A key is skipped together with its colon. -/
theorem skipKey_append {before : List Char} (hgap : Blank gap)
    (hbefore : Blank before) (key : List Piece) (rest : List Char) :
    skipKey (gap ++ '"' :: (rawText key ++ '"' :: (before ++ ':' :: rest)))
      = .ok rest := by
  unfold skipKey
  rw [skipSpace_append hgap, skipSpace_cons rfl]
  simp only [skipString_rawText]
  exact readColon_append hbefore rest

/-- What was skipped is a key and its colon. -/
theorem exists_of_skipKey (h : skipKey text = .ok rest) :
    ∃ gap key before, Blank gap ∧ Blank before
      ∧ text = gap
        ++ '"' :: (rawText key ++ '"' :: (before ++ ':' :: rest)) := by
  obtain ⟨gap, hgap, htext⟩ := exists_blank text
  unfold skipKey at h
  split at h
  · next heq =>
      split at h
      · cases h
      · next hkey =>
          obtain ⟨key, rfl⟩ := rawText_of_skipString hkey
          obtain ⟨before, hbefore, rfl⟩ := exists_of_readColon h
          rw [heq] at htext
          exact ⟨gap, key, before, hgap, hbefore, htext⟩
  · cases h
  · cases h

/-- A numeral does not go on with a blank. -/
theorem ends_append (hgap : Blank gap) (hrest : Ends rest) :
    Ends (gap ++ rest) := by
  cases gap with
  | nil => exact hrest
  | cons g gap =>
      rintro _ ⟨⟩
      have hg := hgap g List.mem_cons_self
      unfold isSpace at hg
      simp only [Bool.or_eq_true, decide_eq_true_eq] at hg
      rcases hg with ((rfl | rfl) | rfl) | rfl <;> exact ⟨rfl, by decide⟩

-- ============================================================= scalars

/-- The first character of a numeral is a sign or a digit. -/
theorem Literal.exists_cons (literal : Literal) :
    ∃ c more, literal.text = c :: more
      ∧ (literal.minus = true ∧ c = '-' ∧ more = literal.unsigned
        ∨ literal.minus = false ∧ isDigit c
          ∧ c :: more = literal.unsigned) := by
  unfold Literal.text
  cases literal.minus with
  | true => exact ⟨'-', literal.unsigned, rfl, .inl ⟨rfl, rfl, rfl⟩⟩
  | false =>
      obtain ⟨c, more, hwhole, hc, -⟩ := literal.isDigits.exists_cons
      refine ⟨c, more ++ (literal.fraction ++ literal.powerText), ?_,
        .inr ⟨rfl, hc, ?_⟩⟩
      · rw [if_neg Bool.false_ne_true, List.nil_append, Literal.unsigned,
          hwhole, List.cons_append]
      · rw [Literal.unsigned, hwhole, List.cons_append]

/-- The character with which a value starts. -/
def Tree.Opens : Tree → Char → Prop
  | .null, c => c = 'n'
  | .boolean true, c => c = 't'
  | .boolean false, c => c = 'f'
  | .number literal, c => if literal.minus then c = '-' else isDigit c
  | .string _, c => c = '"'
  | .list _, c => c = '['
  | .object _, c => c = '\x7b'

/-- The first character of a value tells its kind. -/
theorem Spells.exists_cons (h : Spells core tree) :
    ∃ c more, core = c :: more ∧ tree.Opens c := by
  cases h with
  | null => exact ⟨_, _, rfl, rfl⟩
  | true => exact ⟨_, _, rfl, rfl⟩
  | false => exact ⟨_, _, rfl, rfl⟩
  | number literal =>
      obtain ⟨c, more, htext, hcases⟩ := literal.exists_cons
      refine ⟨c, more, htext, ?_⟩
      rcases hcases with ⟨hminus, hc, -⟩ | ⟨hminus, hc, -⟩
      · simpa [Tree.Opens, hminus] using hc
      · simpa [Tree.Opens, hminus] using hc
  | string pieces => exact ⟨_, _, rfl, rfl⟩
  | list => exact ⟨_, _, rfl, rfl⟩
  | object => exact ⟨_, _, rfl, rfl⟩

/-- No value starts with a blank or with a mark that stands between
values. -/
theorem Tree.Opens.not_mark (h : tree.Opens c) :
    isSpace c = false ∧ c ≠ ',' ∧ c ≠ ']' ∧ c ≠ '\x7d' := by
  have hdigit : isDigit c →
      isSpace c = false ∧ c ≠ ',' ∧ c ≠ ']' ∧ c ≠ '\x7d' := by
    intro hc
    refine ⟨?_, ?_, ?_, ?_⟩
    · cases hspace : isSpace c with
      | false => rfl
      | true =>
          unfold isSpace at hspace
          simp only [Bool.or_eq_true, decide_eq_true_eq] at hspace
          rcases hspace with ((rfl | rfl) | rfl) | rfl <;> cases hc
    · rintro rfl
      cases hc
    · rintro rfl
      cases hc
    · rintro rfl
      cases hc
  unfold Tree.Opens at h
  split at h
  case h_4 literal _ =>
    split at h
    · rw [h]
      decide
    · exact hdigit h
  all_goals
    rw [h]
    decide

/-- Only strings start with a quote. -/
theorem Tree.Opens.exists_string (h : tree.Opens '"') :
    ∃ pieces, tree = .string pieces := by
  unfold Tree.Opens at h
  split at h
  case h_4 =>
    split at h
    · cases h
    · cases h
  case h_5 => exact ⟨_, rfl⟩
  all_goals cases h

/-- Only lists start with a bracket. -/
theorem Tree.Opens.exists_list (h : tree.Opens '[') :
    ∃ items, tree = .list items := by
  unfold Tree.Opens at h
  split at h
  case h_4 =>
    split at h
    · cases h
    · cases h
  case h_6 => exact ⟨_, rfl⟩
  all_goals cases h

/-- Only objects start with a brace. -/
theorem Tree.Opens.exists_object (h : tree.Opens '\x7b') :
    ∃ members, tree = .object members := by
  unfold Tree.Opens at h
  split at h
  case h_4 =>
    split at h
    · cases h
    · cases h
  case h_7 => exact ⟨_, rfl⟩
  all_goals cases h

/-- Only `null` starts with an `n`. -/
theorem Tree.Opens.eq_null (h : tree.Opens 'n') : tree = .null := by
  unfold Tree.Opens at h
  split at h
  case h_1 => rfl
  case h_4 =>
    split at h
    · cases h
    · cases h
  all_goals cases h

/-- A value without parts is passed over. -/
theorem skipScalar_append (h : Spells core tree)
    (hlist : ∀ items, tree ≠ .list items)
    (hobject : ∀ members, tree ≠ .object members) (hrest : Ends rest) :
    skipScalar (core ++ rest) = .ok rest := by
  cases h with
  | null => exact readWord_append ['u', 'l', 'l'] rest
  | true => exact readWord_append ['r', 'u', 'e'] rest
  | false => exact readWord_append ['a', 'l', 's', 'e'] rest
  | number literal =>
      have hskip := skipUnsigned_unsigned literal hrest
      obtain ⟨c, more, htext, hcases⟩ := literal.exists_cons
      rcases hcases with ⟨-, rfl, rfl⟩ | ⟨-, hc, hmore⟩
      · rw [htext]
        exact hskip
      · rw [htext, List.cons_append]
        rw [← hmore, List.cons_append] at hskip
        unfold skipScalar
        split
        case h_6 heq =>
          cases heq
          rw [if_pos hc, hskip]
        case h_7 heq => cases heq
        all_goals
          next heq =>
            cases heq
            cases hc
  | string pieces =>
      rw [List.cons_append, List.append_assoc]
      exact skipString_rawText pieces rest
  | list => exact absurd rfl (hlist _)
  | object => exact absurd rfl (hobject _)

/-- Whatever is passed over as a value without parts is one. -/
theorem exists_of_skipScalar (h : skipScalar text = .ok rest) :
    ∃ core tree, Spells core tree ∧ text = core ++ rest := by
  unfold skipScalar at h
  split at h
  · rw [eq_of_readWord h]
    exact ⟨_, _, .null, rfl⟩
  · rw [eq_of_readWord h]
    exact ⟨_, _, .true, rfl⟩
  · rw [eq_of_readWord h]
    exact ⟨_, _, .false, rfl⟩
  · obtain ⟨pieces, rfl⟩ := rawText_of_skipString h
    refine ⟨_, _, .string pieces, ?_⟩
    rw [List.cons_append, List.append_assoc]
    rfl
  · obtain ⟨literal, hminus, rfl⟩ := unsigned_of_skipUnsigned true h
    refine ⟨_, _, .number literal, ?_⟩
    rw [Literal.text, hminus]
    rfl
  · split at h
    · obtain ⟨literal, hminus, htext⟩ := unsigned_of_skipUnsigned false h
      refine ⟨_, _, .number literal, ?_⟩
      rw [Literal.text, hminus, htext]
      rfl
    · cases h
  · cases h

-- =============================================================== steps

/-- One step, without what its termination needs. -/
theorem skipFrom_eq (stack : List Frame) (text : List Char) :
    skipFrom stack text = match skipSpace text with
      | [] => .error (.next .valueMissing [])
      | '[' :: inner =>
          match skipSpace inner with
          | [] => .error (.next .listUnclosed [])
          | ']' :: rest => skipAfter stack rest
          | items => skipFrom (.list :: stack) items
      | '\x7b' :: inner =>
          match skipSpace inner with
          | [] => .error (.next .objectUnclosed [])
          | '\x7d' :: rest => skipAfter stack rest
          | members =>
              match skipKey members with
              | .error fault => .error fault
              | .ok rest => skipFrom (.object :: stack) rest
      | scalar =>
          match skipScalar scalar with
          | .error fault => .error fault
          | .ok rest => skipAfter stack rest := by
  rw [skipFrom.eq_def]
  grind

/-- The same for what is done behind a value. -/
theorem skipAfter_eq (stack : List Frame) (text : List Char) :
    skipAfter stack text = match stack with
      | [] => .ok text
      | .list :: outer =>
          match skipSpace text with
          | [] => .error (.next .listUnclosed [])
          | ',' :: rest => skipFrom (.list :: outer) rest
          | ']' :: rest => skipAfter outer rest
          | other => .error (.next .expectedListEnd other)
      | .object :: outer =>
          match skipSpace text with
          | [] => .error (.next .objectUnclosed [])
          | ',' :: rest =>
              match skipKey rest with
              | .error fault => .error fault
              | .ok rest => skipFrom (.object :: outer) rest
          | '\x7d' :: rest => skipAfter outer rest
          | other => .error (.next .expectedObjectEnd other) := by
  rw [skipAfter.eq_def]
  grind

/-- A value without parts is skipped at once. -/
theorem skipFrom_scalar (htext : skipSpace text = c :: inner)
    (hlist : c ≠ '[') (hobject : c ≠ '\x7b')
    (hscalar : skipScalar (c :: inner) = .ok rest) :
    skipFrom stack text = skipAfter stack rest := by
  rw [skipFrom_eq, htext]
  simp [hlist, hobject, hscalar]

/-- An empty list opens nothing. -/
theorem skipFrom_emptyList (htext : skipSpace text = '[' :: inner)
    (hinner : skipSpace inner = ']' :: rest) :
    skipFrom stack text = skipAfter stack rest := by
  rw [skipFrom_eq, htext]
  simp [hinner]

/-- Blanks in front of a value do not matter. -/
theorem skipFrom_skipSpace (stack : List Frame) (text : List Char) :
    skipFrom stack (skipSpace text) = skipFrom stack text := by
  have htwice : skipSpace (skipSpace text) = skipSpace text := by
    cases htext : skipSpace text with
    | nil => rfl
    | cons c rest => exact skipSpace_cons (isSpace_of_skipSpace htext) rest
  rw [skipFrom_eq, htwice, ← skipFrom_eq]

/-- Any other list is open until its items have been skipped. -/
theorem skipFrom_list (htext : skipSpace text = '[' :: inner)
    (hinner : skipSpace inner = c :: rest) (hc : c ≠ ']') :
    skipFrom stack text = skipFrom (.list :: stack) inner := by
  rw [← skipFrom_skipSpace (.list :: stack), skipFrom_eq, htext]
  simp [hinner, hc]

/-- An empty object opens nothing either. -/
theorem skipFrom_emptyObject (htext : skipSpace text = '\x7b' :: inner)
    (hinner : skipSpace inner = '\x7d' :: rest) :
    skipFrom stack text = skipAfter stack rest := by
  rw [skipFrom_eq, htext]
  simp [hinner]

/-- Any other object is open, and its first key is skipped. -/
theorem skipFrom_object {key : List Char}
    (htext : skipSpace text = '\x7b' :: inner)
    (hinner : skipSpace inner = '"' :: key)
    (hkey : skipKey ('"' :: key) = .ok rest) :
    skipFrom stack text = skipFrom (.object :: stack) rest := by
  rw [skipFrom_eq, htext]
  simp [hinner, hkey]

/-- In a list a comma is followed by an item. -/
theorem skipAfter_item (htext : skipSpace text = ',' :: rest) :
    skipAfter (.list :: stack) text = skipFrom (.list :: stack) rest := by
  rw [skipAfter_eq]
  simp [htext]

/-- A bracket closes the innermost list. -/
theorem skipAfter_listEnd (htext : skipSpace text = ']' :: rest) :
    skipAfter (.list :: stack) text = skipAfter stack rest := by
  rw [skipAfter_eq]
  simp [htext]

/-- In an object a comma is followed by a key and a value. -/
theorem skipAfter_member (htext : skipSpace text = ',' :: inner)
    (hkey : skipKey inner = .ok rest) :
    skipAfter (.object :: stack) text
      = skipFrom (.object :: stack) rest := by
  rw [skipAfter_eq]
  simp [htext, hkey]

/-- A brace closes the innermost object. -/
theorem skipAfter_objectEnd (htext : skipSpace text = '\x7d' :: rest) :
    skipAfter (.object :: stack) text = skipAfter stack rest := by
  rw [skipAfter_eq]
  simp [htext]

-- ======================================================== completeness

/-- A character that cannot go on with a numeral ends it. -/
theorem ends_cons (h : isDigit c = false ∧ c ≠ '.' ∧ c ≠ 'e' ∧ c ≠ 'E')
    (rest : List Char) : Ends (c :: rest) := by
  rintro _ ⟨⟩
  exact h

/-- An item is over where the list goes on. -/
theorem SpellsItems.ends {items : List Tree}
    (h : SpellsItems false text items) (rest : List Char) :
    Ends (text ++ rest) := by
  cases h with
  | close hgap =>
      rw [List.append_assoc]
      exact ends_append hgap (ends_cons (by decide) rest)
  | next hbefore =>
      rw [List.append_assoc]
      exact ends_append hbefore (ends_cons (by decide) _)

/-- Behind a member stands space, a comma or a brace, none of which goes on
with a numeral. -/
theorem SpellsMembers.ends {members : List (List Piece × Tree)}
    (h : SpellsMembers false text members) (rest : List Char) :
    Ends (text ++ rest) := by
  cases h with
  | close hgap =>
      rw [List.append_assoc]
      exact ends_append hgap (ends_cons (by decide) rest)
  | next hbefore =>
      rw [List.append_assoc]
      exact ends_append hbefore (ends_cons (by decide) _)

/-- Where a value stands, its first character is the next. -/
theorem Spells.skipSpace_append (h : Spells core tree) (hgap : Blank gap)
    (rest : List Char) :
    ∃ c more, skipSpace (gap ++ (core ++ rest)) = c :: (more ++ rest)
      ∧ core = c :: more ∧ tree.Opens c := by
  obtain ⟨c, more, rfl, hopens⟩ := h.exists_cons
  refine ⟨c, more, ?_, rfl, hopens⟩
  rw [Json.skipSpace_append hgap, List.cons_append,
    skipSpace_cons hopens.not_mark.1]

/-- A value without parts, spelled with space in front, is skipped. -/
theorem skipFrom_of_scalar (h : Spells core tree)
    (hlist : ∀ items, tree ≠ .list items)
    (hobject : ∀ members, tree ≠ .object members) (hgap : Blank gap)
    (hrest : Ends rest) (stack : List Frame) :
    skipFrom stack (gap ++ (core ++ rest)) = skipAfter stack rest := by
  obtain ⟨c, more, htext, hcore, hopens⟩ := h.skipSpace_append hgap rest
  have hscalar := skipScalar_append h hlist hobject hrest
  rw [hcore] at hscalar
  refine skipFrom_scalar htext ?_ ?_ hscalar
  · rintro rfl
    obtain ⟨items, heq⟩ := hopens.exists_list
    exact hlist items heq
  · rintro rfl
    obtain ⟨members, heq⟩ := hopens.exists_object
    exact hobject members heq

mutual

/-- A value is passed over, whatever is open around it. -/
theorem skipFrom_spells {core : List Char} {tree : Tree}
    (h : Spells core tree) {gap rest : List Char} (hgap : Blank gap)
    (hrest : Ends rest) (stack : List Frame) :
    skipFrom stack (gap ++ (core ++ rest)) = skipAfter stack rest :=
  match h with
  | .null => skipFrom_of_scalar .null nofun nofun hgap hrest stack
  | .true => skipFrom_of_scalar .true nofun nofun hgap hrest stack
  | .false => skipFrom_of_scalar .false nofun nofun hgap hrest stack
  | .number literal =>
      skipFrom_of_scalar (.number literal) nofun nofun hgap hrest stack
  | .string pieces =>
      skipFrom_of_scalar (.string pieces) nofun nofun hgap hrest stack
  | .list hitems => (skipItems_spells hitems rest stack).1 rfl hgap
  | .object hmembers => (skipMembers_spells hmembers rest stack).1 rfl hgap

/-- The rest of a list is passed over, be it behind its bracket or behind
an item. -/
theorem skipItems_spells {first : Bool} {body : List Char}
    {items : List Tree} (h : SpellsItems first body items)
    (rest : List Char) (stack : List Frame) :
    (first = true → ∀ {gap : List Char}, Blank gap →
        skipFrom stack (gap ++ '[' :: (body ++ rest))
          = skipAfter stack rest)
      ∧ (first = false → skipAfter (.list :: stack) (body ++ rest)
          = skipAfter stack rest) :=
  match h with
  | @SpellsItems.close _ inner hinner => by
      rw [List.append_assoc]
      have hclose := skipSpace_mark hinner (c := ']') rfl rest
      refine ⟨fun _ gap hgap => ?_, fun _ => skipAfter_listEnd hclose⟩
      exact skipFrom_emptyList (skipSpace_mark hgap rfl _) hclose
  | @SpellsItems.first inner core more _ _ hinner hitem hmore => by
      refine ⟨fun _ gap hgap => ?_, nofun⟩
      have htail := (skipItems_spells hmore rest stack).2 rfl
      have hitems := skipFrom_spells hitem hinner (hmore.ends rest)
        (.list :: stack)
      obtain ⟨c, left, hstart, -, hopens⟩ :=
        hitem.skipSpace_append hinner (more ++ rest)
      rw [List.append_assoc, List.append_assoc,
        skipFrom_list (skipSpace_mark hgap rfl _) hstart
          hopens.not_mark.2.2.1, hitems, htail]
  | @SpellsItems.next before after core more _ _ hbefore hafter hitem
      hmore => by
      refine ⟨nofun, fun _ => ?_⟩
      have htail := (skipItems_spells hmore rest stack).2 rfl
      have hitems := skipFrom_spells hitem hafter (hmore.ends rest)
        (.list :: stack)
      rw [List.append_assoc, List.cons_append, List.append_assoc,
        List.append_assoc,
        skipAfter_item (skipSpace_mark hbefore rfl _), hitems, htail]

/-- The members of an object are skipped up to its brace, whatever is open
around it. -/
theorem skipMembers_spells {first : Bool} {body : List Char}
    {members : List (List Piece × Tree)}
    (h : SpellsMembers first body members)
    (rest : List Char) (stack : List Frame) :
    (first = true → ∀ {gap : List Char}, Blank gap →
        skipFrom stack (gap ++ '\x7b' :: (body ++ rest))
          = skipAfter stack rest)
      ∧ (first = false → skipAfter (.object :: stack) (body ++ rest)
          = skipAfter stack rest) :=
  match h with
  | @SpellsMembers.close _ inner hinner => by
      rw [List.append_assoc]
      have hclose := skipSpace_mark hinner (c := '\x7d') rfl rest
      refine ⟨fun _ gap hgap => ?_, fun _ => skipAfter_objectEnd hclose⟩
      exact skipFrom_emptyObject (skipSpace_mark hgap rfl _) hclose
  | @SpellsMembers.first inner _ more _ _ hinner
      (@SpellsMember.mk before after core key _ hbefore hafter hvalue)
      hmore => by
      refine ⟨fun _ gap hgap => ?_, nofun⟩
      have htail := (skipMembers_spells hmore rest stack).2 rfl
      have hitems := skipFrom_spells hvalue hafter (hmore.ends rest)
        (.object :: stack)
      have hkey := skipKey_append blank_nil hbefore key
        (after ++ (core ++ (more ++ rest)))
      simp only [List.append_assoc, List.cons_append, List.nil_append]
        at hkey ⊢
      rw [skipFrom_object (skipSpace_mark hgap rfl _)
        (skipSpace_mark hinner rfl _) hkey, hitems, htail]
  | @SpellsMembers.next ahead behind _ more _ _ hahead hbehind
      (@SpellsMember.mk before after core key _ hbefore hafter hvalue)
      hmore => by
      refine ⟨nofun, fun _ => ?_⟩
      have htail := (skipMembers_spells hmore rest stack).2 rfl
      have hitems := skipFrom_spells hvalue hafter (hmore.ends rest)
        (.object :: stack)
      have hkey := skipKey_append hbehind hbefore key
        (after ++ (core ++ (more ++ rest)))
      simp only [List.append_assoc, List.cons_append]
      rw [skipAfter_member (skipSpace_mark hahead rfl _) hkey, hitems,
        htail]

end

-- =========================================================== soundness

/-- No value is spelled by nothing, which bounds the recursion. -/
theorem Spells.length_pos (h : Spells core tree) : 0 < core.length := by
  obtain ⟨c, more, rfl, -⟩ := h.exists_cons
  exact Nat.succ_pos _

/-- Space and more space is space. -/
theorem blank_append {more : List Char} (hgap : Blank gap)
    (hmore : Blank more) : Blank (gap ++ more) := by
  intro c hc
  rcases List.mem_append.1 hc with hc | hc
  · exact hgap c hc
  · exact hmore c hc

/-- A value leaves less than it stands in. -/
theorem Spells.left_length_lt {left : List Char} (h : Spells core tree)
    (htext : text = gap ++ (core ++ left)) : left.length < text.length := by
  have hpos := h.length_pos
  rw [htext, List.length_append, List.length_append]
  omega

/-- Behind the first character, and the space behind that, less is left
than there was. -/
theorem skipSpace_length_lt {text : List Char}
    (h : skipSpace text = c :: inner) :
    (skipSpace inner).length < text.length :=
  Nat.lt_of_le_of_lt (skipSpace_length_le inner)
    (skipSpace_cons_length_lt h)

mutual

/-- What is passed over is a value, and what was open is still to be
closed. -/
theorem spells_of_skipFrom {stack : List Frame} {text rest : List Char}
    (h : skipFrom stack text = .ok rest) :
    ∃ gap core tree left, Blank gap ∧ Spells core tree
      ∧ text = gap ++ (core ++ left) ∧ skipAfter stack left = .ok rest := by
  obtain ⟨gap, hgap, htext⟩ := exists_blank text
  rw [skipFrom_eq] at h
  split at h
  · cases h
  · next inner hopen =>
      obtain ⟨within, hwithin, hinner⟩ := exists_blank inner
      have hlt := skipSpace_length_lt hopen
      rw [hopen] at htext
      split at h
      · cases h
      · next left hclose =>
          rw [hclose] at hinner
          refine ⟨gap, _, _, left, hgap, .list (.close hwithin), ?_, h⟩
          rw [htext, hinner]
          simp only [List.cons_append, List.append_assoc, List.nil_append]
      · -- the first item leaves the list open, for the others to close
        obtain ⟨before, core, item, left, hbefore, hitem, hitems, hleft⟩ :=
          spells_of_skipFrom h
        have := hitem.left_length_lt hitems
        obtain ⟨body, more, final, hmore, rfl, hfinal⟩ :=
          spells_of_skipItems hleft
        refine ⟨gap, _, _, final, hgap,
          .list (.first (blank_append hwithin hbefore) hitem hmore), ?_,
          hfinal⟩
        rw [htext, hinner, hitems]
        simp only [List.cons_append, List.append_assoc]
  · next inner hopen =>
      obtain ⟨within, hwithin, hinner⟩ := exists_blank inner
      have hlt := skipSpace_length_lt hopen
      rw [hopen] at htext
      split at h
      · cases h
      · next left hclose =>
          rw [hclose] at hinner
          refine ⟨gap, _, _, left, hgap, .object (.close hwithin), ?_, h⟩
          rw [htext, hinner]
          simp only [List.cons_append, List.append_assoc, List.nil_append]
      · split at h
        · cases h
        · next after hkey =>
            have := skipKey_length_lt hkey
            obtain ⟨ahead, key, before, hahead, hbefore, hmembers⟩ :=
              exists_of_skipKey hkey
            obtain ⟨behind, core, value, left, hbehind, hvalue, hafter,
              hleft⟩ := spells_of_skipFrom h
            have := hvalue.left_length_lt hafter
            obtain ⟨body, more, final, hmore, rfl, hfinal⟩ :=
              spells_of_skipMembers hleft
            have hmember : SpellsMember _ (key, value) :=
              .mk hbefore hbehind hvalue
            refine ⟨gap, _, _, final, hgap,
              .object (.first (blank_append hwithin hahead) hmember hmore),
              ?_, hfinal⟩
            rw [htext, hinner, hmembers, hafter]
            simp only [List.cons_append, List.append_assoc]
  · split at h
    · cases h
    · next left hscalar =>
        obtain ⟨core, tree, hspells, hcore⟩ := exists_of_skipScalar hscalar
        rw [hcore] at htext
        exact ⟨gap, core, tree, left, hgap, hspells, htext, h⟩
termination_by text.length

/-- Behind an item of a list: what was skipped spells the other items. -/
theorem spells_of_skipItems {stack : List Frame} {text rest : List Char}
    (h : skipAfter (.list :: stack) text = .ok rest) :
    ∃ body items left, SpellsItems false body items
      ∧ text = body ++ left ∧ skipAfter stack left = .ok rest := by
  obtain ⟨gap, hgap, htext⟩ := exists_blank text
  rw [skipAfter_eq] at h
  dsimp only at h
  split at h
  · cases h
  · next inner hcomma =>
      have := skipSpace_cons_length_lt hcomma
      obtain ⟨after, core, item, left, hafter, hitem, hinner, hleft⟩ :=
        spells_of_skipFrom h
      have := hitem.left_length_lt hinner
      obtain ⟨body, items, final, hmore, rfl, hfinal⟩ :=
        spells_of_skipItems hleft
      refine ⟨_, _, final, .next hgap hafter hitem hmore, ?_, hfinal⟩
      rw [htext, hcomma, hinner]
      simp only [List.cons_append, List.append_assoc]
  · next left hclose =>
      refine ⟨_, _, left, .close hgap, ?_, h⟩
      rw [htext, hclose]
      simp only [List.cons_append, List.append_assoc, List.nil_append]
  · cases h
termination_by text.length

/-- Behind a member of an object: what was skipped spells the others. -/
theorem spells_of_skipMembers {stack : List Frame}
    {text rest : List Char}
    (h : skipAfter (.object :: stack) text = .ok rest) :
    ∃ body members left, SpellsMembers false body members
      ∧ text = body ++ left ∧ skipAfter stack left = .ok rest := by
  obtain ⟨gap, hgap, htext⟩ := exists_blank text
  rw [skipAfter_eq] at h
  dsimp only at h
  split at h
  · cases h
  · next inner hcomma =>
      have := skipSpace_cons_length_lt hcomma
      split at h
      · cases h
      · next hkey =>
          have := skipKey_length_lt hkey
          obtain ⟨ahead, key, before, hahead, hbefore, hinner⟩ :=
            exists_of_skipKey hkey
          obtain ⟨behind, core, value, left, hbehind, hvalue, hafter,
            hleft⟩ := spells_of_skipFrom h
          have := hvalue.left_length_lt hafter
          obtain ⟨body, members, final, hmore, rfl, hfinal⟩ :=
            spells_of_skipMembers hleft
          have hmember : SpellsMember _ (key, value) :=
            .mk hbefore hbehind hvalue
          refine ⟨_, _, final, .next hgap hahead hmember hmore, ?_, hfinal⟩
          rw [htext, hcomma, hinner, hafter]
          simp only [List.cons_append, List.append_assoc]
  · next left hclose =>
      refine ⟨_, _, left, .close hgap, ?_, h⟩
      rw [htext, hclose]
      simp only [List.cons_append, List.append_assoc, List.nil_append]
  · cases h
termination_by text.length

end

-- ============================================================== values

/-- A value is passed over whole. -/
theorem skipValue_spells (h : Spells core tree) (hgap : Blank gap)
    (hrest : Ends rest) : skipValue (gap ++ (core ++ rest)) = .ok rest := by
  rw [skipValue, skipFrom_spells h hgap hrest, skipAfter_eq]

/-- Whatever is passed over is a value. -/
theorem spells_of_skipValue (h : skipValue text = .ok rest) :
    ∃ gap core tree, Blank gap ∧ Spells core tree
      ∧ text = gap ++ (core ++ rest) := by
  obtain ⟨gap, core, tree, left, hgap, hspells, htext, hleft⟩ :=
    spells_of_skipFrom h
  rw [skipAfter_eq] at hleft
  cases hleft
  exact ⟨gap, core, tree, hgap, hspells, htext⟩

end LinkOrder.Json
