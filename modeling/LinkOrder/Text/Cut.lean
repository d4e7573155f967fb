/-
Cutting a text at a separator: at its first character of a kind, at its
last, or at the first place where a longer separator stands. Every cut
loses exactly the separator, and fails exactly when there is none. Link
map lines are taken apart by these cuts alone.
-/

namespace LinkOrder.Text

/-- The text before and after the first `mark`. -/
def cut (mark : Char) : List Char → Option (List Char × List Char)
  | [] => none
  | c :: rest =>
      if c = mark then some ([], rest)
      else (cut mark rest).map fun (before, after) => (c :: before, after)

/-- The text before and after the last `mark`. -/
def cutLast (mark : Char) : List Char → Option (List Char × List Char)
  | [] => none
  | c :: rest =>
      match cutLast mark rest with
      | some (before, after) => some (c :: before, after)
      | none => if c = mark then some ([], rest) else none

/-- The text after `start`, where it begins with that. -/
def afterStart? : (start text : List Char) → Option (List Char)
  | [], text => some text
  | _ :: _, [] => none
  | a :: start, c :: rest => if a = c then afterStart? start rest else none

/-- The text before and after the first place where `mark` stands. -/
def cutAt (mark : List Char) : List Char → Option (List Char × List Char)
  | [] => (afterStart? mark []).map fun after => ([], after)
  | c :: rest =>
      match afterStart? mark (c :: rest) with
      | some after => some ([], after)
      | none =>
          (cutAt mark rest).map fun (before, after) => (c :: before, after)

/-- Whether `mark` stands anywhere in the text. -/
def occurs (mark text : List Char) : Bool := (cutAt mark text).isSome

/-- The pieces between the separators: one more than there are of them. -/
def pieces (mark : Char) : List Char → List (List Char)
  | [] => [[]]
  | c :: rest =>
      if c = mark then [] :: pieces mark rest
      else
        match pieces mark rest with
        | [] => [[c]]
        | piece :: others => (c :: piece) :: others

-- ================================================================ laws

/-- A cut at the first mark is the only one whose front is free of it. -/
theorem cut_eq_some_iff {mark : Char} {text before after : List Char} :
    cut mark text = some (before, after)
      ↔ text = before ++ mark :: after ∧ mark ∉ before := by
  induction text generalizing before with
  | nil => simp [cut]
  | cons c rest ih =>
      by_cases hc : c = mark
      · subst hc
        cases before <;> simp [cut, eq_comm]
        intro h; simp [h]
      · cases before with
        | nil => simp [cut, hc]
        | cons b before =>
            simp only [cut, hc, if_false, Option.map_eq_some_iff,
              Prod.mk.injEq, List.cons.injEq, List.cons_append,
              List.mem_cons, not_or]
            constructor
            · rintro ⟨⟨x, y⟩, hxy, ⟨rfl, rfl⟩, rfl⟩
              obtain ⟨rfl, hm⟩ := ih.1 hxy
              exact ⟨⟨rfl, rfl⟩, fun h => hc h.symm, hm⟩
            · rintro ⟨⟨rfl, rfl⟩, -, hm⟩
              exact ⟨_, ih.2 ⟨rfl, hm⟩, ⟨rfl, rfl⟩, rfl⟩

/-- There is no cut exactly if there is nothing to cut at. -/
theorem cut_eq_none_iff {mark : Char} {text : List Char} :
    cut mark text = none ↔ mark ∉ text := by
  induction text with
  | nil => simp [cut]
  | cons c rest ih =>
      by_cases hc : c = mark
      · simp [cut, hc]
      · simp [cut, hc, ih, Ne.symm hc]

/-- Both ways of cutting fail on the same texts. -/
theorem cutLast_eq_none_iff {mark : Char} {text : List Char} :
    cutLast mark text = none ↔ mark ∉ text := by
  induction text with
  | nil => simp [cutLast]
  | cons c rest ih =>
      cases h : cutLast mark rest with
      | none =>
          by_cases hc : c = mark
          · simp [cutLast, h, hc]
          · simp [cutLast, h, hc, Ne.symm hc, ih.1 h]
      | some halves =>
          have hm : mark ∈ rest := by
            by_cases hm : mark ∈ rest
            · exact hm
            · rw [ih.2 hm] at h; cases h
          simp [cutLast, h, hm]

/-- A cut at the last mark is the only one whose end is free of it. -/
theorem cutLast_eq_some_iff {mark : Char} {text before after : List Char} :
    cutLast mark text = some (before, after)
      ↔ text = before ++ mark :: after ∧ mark ∉ after := by
  induction text generalizing before after with
  | nil => simp [cutLast]
  | cons c rest ih =>
      cases h : cutLast mark rest with
      | none =>
          -- no mark in the rest: the last one can only be this character
          have hm := cutLast_eq_none_iff.1 h
          cases before with
          | nil =>
              by_cases hc : c = mark
              · simp only [cutLast, h, hc, if_true, Option.some.injEq,
                  Prod.mk.injEq, true_and, List.nil_append,
                  List.cons.injEq]
                constructor
                · rintro rfl; exact ⟨rfl, hm⟩
                · rintro ⟨rfl, -⟩; rfl
              · simp [cutLast, h, hc]
          | cons b before =>
              have hne : ¬ (rest = before ++ mark :: after) := by
                rintro rfl; simp at hm
              by_cases hc : c = mark <;> simp [cutLast, h, hc, hne]
      | some halves =>
          obtain ⟨x, y⟩ := halves
          obtain ⟨rfl, hy⟩ := ih.1 h
          cases before with
          | nil =>
              simp only [cutLast, h, Option.some.injEq, Prod.mk.injEq,
                reduceCtorEq, false_and, List.nil_append, List.cons.injEq,
                false_iff, not_and, Decidable.not_not]
              rintro ⟨-, rfl⟩; simp
          | cons b before =>
              simp only [cutLast, h, Option.some.injEq, Prod.mk.injEq,
                List.cons.injEq, List.cons_append]
              rw [h] at ih
              have := @ih before after
              simp only [Option.some.injEq, Prod.mk.injEq] at this
              rw [and_assoc, this, and_assoc]

/-- What is behind a start joins with it to the text. -/
theorem afterStart?_eq_some_iff {start text after : List Char} :
    afterStart? start text = some after ↔ text = start ++ after := by
  induction start generalizing text with
  | nil => simp [afterStart?]
  | cons a start ih =>
      cases text with
      | nil => simp [afterStart?]
      | cons c rest =>
          by_cases h : a = c
          · simp [afterStart?, h, ih]
          · simp [afterStart?, h, Ne.symm h]

/-- A cut at a longer mark is made at the first place where the mark
stands. -/
theorem cutAt_eq_some_iff {mark text before after : List Char} :
    cutAt mark text = some (before, after)
      ↔ text = before ++ mark ++ after
        ∧ ∀ front rest, text = front ++ mark ++ rest
            → before.length ≤ front.length := by
  induction text generalizing before with
  | nil =>
      simp only [cutAt, Option.map_eq_some_iff, afterStart?_eq_some_iff,
        Prod.mk.injEq]
      constructor
      · rintro ⟨x, hx, rfl, rfl⟩
        exact ⟨by simpa using hx, fun _ _ _ => Nat.zero_le _⟩
      · rintro ⟨heq, -⟩
        cases before with
        | nil => exact ⟨after, by simpa using heq, rfl, rfl⟩
        | cons b before => cases heq
  | cons c rest ih =>
      cases h : afterStart? mark (c :: rest) with
      | some x =>
          have hx := afterStart?_eq_some_iff.1 h
          simp only [cutAt, h, Option.some.injEq, Prod.mk.injEq]
          constructor
          · rintro ⟨rfl, rfl⟩
            exact ⟨by simpa using hx, fun _ _ _ => Nat.zero_le _⟩
          · rintro ⟨heq, hfirst⟩
            -- the mark stands here, so that the first one is this
            have hnil : before = [] :=
              List.length_eq_zero_iff.1
                (Nat.le_zero.1 (hfirst [] x (by simpa using hx)))
            subst hnil
            rw [hx] at heq
            exact ⟨rfl, by simpa using heq⟩
      | none =>
          -- the mark does not stand here, so that the first one is in the rest
          have hnot : ∀ after', c :: rest ≠ mark ++ after' := fun after' he =>
            absurd (afterStart?_eq_some_iff.2 he) (by simp [h])
          cases before with
          | nil =>
              simp only [cutAt, h, Option.map_eq_some_iff, Prod.mk.injEq,
                reduceCtorEq, false_and, and_false, exists_false,
                List.nil_append, false_iff, not_and]
              exact fun heq => absurd heq (hnot after)
          | cons b before =>
              simp only [cutAt, h, Option.map_eq_some_iff, Prod.mk.injEq,
                List.cons.injEq, List.cons_append]
              constructor
              · rintro ⟨⟨x, y⟩, hxy, ⟨rfl, rfl⟩, rfl⟩
                obtain ⟨rfl, hfirst⟩ := ih.1 hxy
                refine ⟨⟨rfl, rfl⟩, fun front rest' heq => ?_⟩
                cases front with
                | nil => exact absurd heq (hnot rest')
                | cons d front =>
                    rw [List.cons_append, List.cons_append,
                      List.cons.injEq] at heq
                    exact Nat.succ_le_succ (hfirst front rest' heq.2)
              · rintro ⟨⟨rfl, rfl⟩, hfirst⟩
                refine ⟨_, ih.2 ⟨rfl, fun front rest' heq => ?_⟩,
                  ⟨rfl, rfl⟩, rfl⟩
                have hlong := hfirst (c :: front) rest'
                  (congrArg (List.cons c) heq)
                exact Nat.le_of_succ_le_succ hlong

/-- A mark is cut at where it was written, if its first character does not
stand in front. -/
theorem cutAt_append_of_not_mem {mark before : List Char} {c : Char}
    (h : c ∉ before) (after : List Char) :
    cutAt (c :: mark) (before ++ (c :: mark) ++ after)
      = some (before, after) := by
  refine cutAt_eq_some_iff.2 ⟨rfl, fun front rest heq => ?_⟩
  rw [List.append_assoc, List.append_assoc] at heq
  rcases List.append_eq_append_iff.1 heq with
    ⟨more, rfl, -⟩ | ⟨more, rfl, hmore⟩
  · rw [List.length_append]
    omega
  · cases more with
    | nil => simp
    | cons a more =>
        have ha : c = a := by
          rw [List.cons_append, List.cons_append, List.cons.injEq] at hmore
          exact hmore.1
        exact absurd (by simp [ha]) h

/-- A mark does not begin in a text without its first character. -/
theorem infix_of_infix_append {mark front text : List Char} {c : Char}
    (h : c ∉ front) (hmark : c :: mark <:+: front ++ text) :
    c :: mark <:+: text := by
  induction front with
  | nil => exact hmark
  | cons a front ih =>
      rcases List.infix_cons_iff.1 hmark with hstart | hrest
      · have hc := (List.cons_prefix_cons.1 hstart).1
        exact absurd (hc ▸ List.mem_cons_self) h
      · exact ih (fun hmem => h (List.mem_cons_of_mem a hmem)) hrest

/-- A mark stands in a text where the text has it as a part. -/
theorem occurs_iff {mark text : List Char} :
    occurs mark text = true ↔ mark <:+: text := by
  unfold occurs
  induction text with
  | nil =>
      cases mark with
      | nil => simp [cutAt, afterStart?]
      | cons a mark => simp [cutAt, afterStart?]
  | cons c rest ih =>
      rw [List.infix_cons_iff, ← ih]
      cases h : afterStart? mark (c :: rest) with
      | some x =>
          have hx := afterStart?_eq_some_iff.1 h
          simp only [cutAt, h, Option.isSome_some, true_iff]
          exact Or.inl ⟨x, hx.symm⟩
      | none =>
          have hnot : ¬ mark <+: c :: rest := by
            rintro ⟨x, hx⟩
            rw [afterStart?_eq_some_iff.2 hx.symm] at h
            cases h
          simp [cutAt, h, hnot]

end LinkOrder.Text
