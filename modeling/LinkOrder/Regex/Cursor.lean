/-
Reading a pattern from its start to its end. A cursor knows the text that
is left and the place where it starts; it may be told to pass over blanks
and comments. A reading takes the cursor on, or finds a fault. Main
statement: passing over blanks never makes the text longer, so a run of
characters can be taken although blanks stand between them.
-/
import LinkOrder.Regex.Fault
import LinkOrder.Text.Blank

namespace LinkOrder.Regex

/-- Where a reading stands. -/
structure Cursor where
  place : Place
  /-- What is left of the pattern. -/
  text : List Char
  /-- Whether blanks and comments say nothing. -/
  spaced : Bool
deriving Repr, Inhabited

/-- The place and the text behind blanks and comments. -/
def passBlanks : (inComment : Bool) → Place → List Char →
    Place × List Char
  | _, place, [] => (place, [])
  | true, place, c :: rest => passBlanks (c ≠ '\n') (place.after c) rest
  | false, place, c :: rest =>
      if Text.isBlank c then passBlanks false (place.after c) rest
      else if c = '#' then passBlanks true (place.after c) rest
      else (place, c :: rest)

namespace Cursor

/-- The cursor at the start of a pattern. -/
def ofPattern (pattern : List Char) : Cursor := ⟨.start, pattern, false⟩

/-- The cursor behind the next character. -/
def next (cursor : Cursor) : Cursor :=
  match cursor.text with
  | [] => cursor
  | c :: rest => { cursor with place := cursor.place.after c, text := rest }

/-- The cursor behind blanks and comments, if they say nothing. -/
def skip (cursor : Cursor) : Cursor :=
  if cursor.spaced then
    let (place, text) := passBlanks false cursor.place cursor.text
    { cursor with place := place, text := text }
  else cursor

/-- The cursor behind a number of characters. -/
def drop : Nat → Cursor → Cursor
  | 0, cursor => cursor
  | n + 1, cursor => drop n cursor.next

end Cursor

-- ============================================================ progress

/-- Blanks and comments may be missing. -/
theorem passBlanks_length_le (inComment : Bool) (place : Place)
    (text : List Char) :
    (passBlanks inComment place text).2.length ≤ text.length := by
  fun_induction passBlanks inComment place text with
  | case1 => exact Nat.le_refl _
  | case2 _ _ _ ih => exact Nat.le_succ_of_le ih
  | case3 _ _ _ _ ih => exact Nat.le_succ_of_le ih
  | case4 _ _ _ ih => exact Nat.le_succ_of_le ih
  | case5 => exact Nat.le_refl _

/-- To skip what the pattern ignores goes forward only. -/
theorem Cursor.skip_length_le (cursor : Cursor) :
    cursor.skip.text.length ≤ cursor.text.length := by
  unfold Cursor.skip
  split
  · exact passBlanks_length_le _ _ _
  · exact Nat.le_refl _

/-- The characters up to the first that fails a test, and the cursor in
front of that. Blanks between them are passed over where they say
nothing. -/
def Cursor.run (test : Char → Bool) (cursor : Cursor) :
    List Char × Cursor :=
  match h : cursor.text with
  | [] => ([], cursor)
  | c :: rest =>
      if test c then
        have : cursor.next.skip.text.length < cursor.text.length := by
          have := cursor.next.skip_length_le
          simp only [Cursor.next, h] at this ⊢
          exact Nat.lt_succ_of_le this
        let (more, last) := run test cursor.next.skip
        (c :: more, last)
      else ([], cursor)
termination_by cursor.text.length

-- ============================================================ readings

/-- A step in reading a pattern. -/
abbrev Reading := StateT Cursor (Except Fault)

namespace Reading

/-- Where the reading stands. -/
def here : Reading Place := return (← get).place

/-- What is left of the pattern. -/
def rest : Reading (List Char) := return (← get).text

/-- Whether nothing is left. -/
def atEnd : Reading Bool := return (← rest).isEmpty

/-- Goes past the next character. -/
def next : Reading Unit := modify Cursor.next

/-- Goes past blanks and comments, if they say nothing. -/
def skip : Reading Unit := modify Cursor.skip

/-- Goes past the next character and what says nothing behind it. -/
def advance : Reading Unit := modify fun cursor => cursor.next.skip

/-- Goes past a number of characters. -/
def drop (n : Nat) : Reading Unit := modify (Cursor.drop n)

/-- Goes past a text, if it is what comes next. -/
def take? (text : List Char) : Reading Bool := do
  if text.isPrefixOf (← rest) then
    drop text.length
    return true
  else return false

/-- Takes the characters that pass a test. -/
def takeRun (test : Char → Bool) : Reading (List Char) :=
  modifyGet (Cursor.run test)

/-- The part from a place up to here. -/
def since (start : Place) : Reading Span := return ⟨start, ← here⟩

/-- The part that the next character is, which is empty at the end. -/
def nextSpan : Reading Span := do
  let cursor ← get
  return ⟨cursor.place, cursor.next.place⟩

/-- Ends the reading with a fault in a part of the pattern. -/
def fail {α : Type} (reason : Reason) (span : Span) : Reading α :=
  throw { reason := reason, span := span }

/-- Ends the reading with a fault right here. -/
def failHere {α : Type} (reason : Reason) : Reading α := do
  fail reason (.empty (← here))

/-- Ends the reading with a fault in the next character. -/
def failNext {α : Type} (reason : Reason) : Reading α := do
  fail reason (← nextSpan)

end Reading

/-- Takes steps until the text is used up, and then a last one. Every step
must take a character, so there are no more steps than characters. -/
def untilEnd {σ α : Type} (step : σ → Reading σ) (finish : σ → Reading α)
    (state : σ) : Reading α := do
  go (← Reading.rest).length state
where
  /-- The steps, of which no more than a number are left. -/
  go : Nat → σ → Reading α
    | 0, state => finish state
    | n + 1, state => do
        if ← Reading.atEnd then finish state
        else go n (← step state)

end LinkOrder.Regex
