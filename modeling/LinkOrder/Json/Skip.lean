/-
Values that are passed over. A value of any shape and depth is skipped by
keeping, outermost last, the lists and objects that are still open; only
its form is checked. Every step takes at least one character, so the
open brackets need no bound.
-/
import LinkOrder.Json.Number

namespace LinkOrder.Json

/-- A list or object that is still open. -/
inductive Frame where
  | list
  | object
deriving DecidableEq, Repr

/-- The text behind a value that has no parts. -/
def skipScalar (text : List Char) : Except Fault (List Char) :=
  match text with
  | 'n' :: rest => readWord ['u', 'l', 'l'] rest
  | 't' :: rest => readWord ['r', 'u', 'e'] rest
  | 'f' :: rest => readWord ['a', 'l', 's', 'e'] rest
  | '"' :: rest => skipString rest
  | '-' :: rest => skipUnsigned rest
  | c :: rest =>
      if isDigit c then skipUnsigned (c :: rest)
      else .error (.next .expectedValue (c :: rest))
  | [] => .error (.next .expectedValue [])

/-- The text behind the colon of a member whose key has been read. -/
def readColon (text : List Char) : Except Fault (List Char) :=
  match skipSpace text with
  | ':' :: rest => .ok rest
  | [] => .error (.next .objectUnclosed [])
  | other => .error (.next .expectedColon other)

/-- The text behind the key and the colon of a skipped member. -/
def skipKey (text : List Char) : Except Fault (List Char) :=
  match skipSpace text with
  | '"' :: rest =>
      match skipString rest with
      | .error fault => .error fault
      | .ok rest => readColon rest
  | [] => .error (.next .objectUnclosed [])
  | other => .error (.next .keyNotString other)

-- ============================================================ progress

/-- A scalar has a first character, which tells its kind and is taken. -/
theorem skipScalar_length_lt {text rest : List Char}
    (h : skipScalar text = .ok rest) : rest.length < text.length := by
  unfold skipScalar at h
  split at h
  · exact Nat.lt_succ_of_le (readWord_length_le h)
  · exact Nat.lt_succ_of_le (readWord_length_le h)
  · exact Nat.lt_succ_of_le (readWord_length_le h)
  · exact Nat.lt_succ_of_lt (skipString_length_lt h)
  · exact Nat.lt_succ_of_lt (skipUnsigned_length_lt h)
  · split at h
    · exact skipUnsigned_length_lt h
    · cases h
  · cases h

/-- A colon is taken, and the spaces in front of it. -/
theorem readColon_length_lt {text rest : List Char}
    (h : readColon text = .ok rest) : rest.length < text.length := by
  unfold readColon at h
  have hle := skipSpace_length_le text
  split at h
  · next he =>
      cases h
      rw [he] at hle
      exact Nat.lt_of_succ_le hle
  · cases h
  · cases h

/-- A key that is passed over takes its quotes and its colon. -/
theorem skipKey_length_lt {text rest : List Char}
    (h : skipKey text = .ok rest) : rest.length < text.length := by
  unfold skipKey at h
  have hle := skipSpace_length_le text
  split at h
  · next he =>
      split at h
      · cases h
      · next hs =>
          have := skipString_length_lt hs
          have := readColon_length_lt h
          rw [he] at hle
          simp only [List.length_cons] at hle
          omega
  · cases h
  · cases h

-- ============================================================== values

-- The names of the equations serve the termination proofs alone.
set_option linter.unusedVariables false

mutual

/-- The text behind a value that stands in the given open brackets,
innermost first, and behind all of these. -/
def skipFrom (stack : List Frame) (text : List Char) :
    Except Fault (List Char) :=
  match h : skipSpace text with
  | [] => .error (.next .valueMissing [])
  | '[' :: inner =>
      match h' : skipSpace inner with
      | [] => .error (.next .listUnclosed [])
      | ']' :: rest => skipAfter stack rest
      | items => skipFrom (.list :: stack) items
  | '\x7b' :: inner =>
      match h' : skipSpace inner with
      | [] => .error (.next .objectUnclosed [])
      | '\x7d' :: rest => skipAfter stack rest
      | members =>
          match hk : skipKey members with
          | .error fault => .error fault
          | .ok rest => skipFrom (.object :: stack) rest
  | scalar =>
      match hs : skipScalar scalar with
      | .error fault => .error fault
      | .ok rest => skipAfter stack rest
termination_by text.length
decreasing_by
  · have := skipSpace_cons_length_lt h
    have := skipSpace_cons_length_lt h'
    omega
  · have := skipSpace_cons_length_lt h
    have := h' ▸ skipSpace_length_le inner
    omega
  · have := skipSpace_cons_length_lt h
    have := skipSpace_cons_length_lt h'
    omega
  · have := skipSpace_cons_length_lt h
    have := h' ▸ skipSpace_length_le inner
    have := skipKey_length_lt hk
    omega
  · have := h ▸ skipSpace_length_le text
    have := skipScalar_length_lt hs
    omega

/-- The text behind the given open brackets, innermost first, where a
value has just ended in the innermost. -/
def skipAfter (stack : List Frame) (text : List Char) :
    Except Fault (List Char) :=
  match stack with
  | [] => .ok text
  | .list :: outer =>
      match h : skipSpace text with
      | [] => .error (.next .listUnclosed [])
      | ',' :: rest => skipFrom (.list :: outer) rest
      | ']' :: rest => skipAfter outer rest
      | other => .error (.next .expectedListEnd other)
  | .object :: outer =>
      match h : skipSpace text with
      | [] => .error (.next .objectUnclosed [])
      | ',' :: rest =>
          match hk : skipKey rest with
          | .error fault => .error fault
          | .ok rest => skipFrom (.object :: outer) rest
      | '\x7d' :: rest => skipAfter outer rest
      | other => .error (.next .expectedObjectEnd other)
termination_by text.length
decreasing_by
  · exact skipSpace_cons_length_lt h
  · exact skipSpace_cons_length_lt h
  · have := skipSpace_cons_length_lt h
    have := skipKey_length_lt hk
    omega
  · exact skipSpace_cons_length_lt h

end

mutual

/-- To skip a value takes something. The two functions call each other, and
so do the proofs; the one below need not take anything, as there may be no
bracket left to close. -/
theorem skipFrom_length_lt {stack : List Frame} {text rest : List Char}
    (h : skipFrom stack text = .ok rest) : rest.length < text.length := by
  unfold skipFrom at h
  split at h
  · cases h
  · next inner hi =>
      have := skipSpace_cons_length_lt hi
      split at h
      · cases h
      · next hr =>
          have := skipSpace_cons_length_lt hr
          have := skipAfter_length_le h
          omega
      · have := skipSpace_length_le inner
        have := skipFrom_length_lt h
        omega
  · next inner hi =>
      have := skipSpace_cons_length_lt hi
      split at h
      · cases h
      · next hr =>
          have := skipSpace_cons_length_lt hr
          have := skipAfter_length_le h
          omega
      · have := skipSpace_length_le inner
        split at h
        · cases h
        · next hk =>
            have := skipKey_length_lt hk
            have := skipFrom_length_lt h
            omega
  · have := skipSpace_length_le text
    split at h
    · cases h
    · next hs =>
        have := skipScalar_length_lt hs
        have := skipAfter_length_le h
        omega
termination_by text.length

/-- To close what is still open takes nothing if nothing is. -/
theorem skipAfter_length_le {stack : List Frame} {text rest : List Char}
    (h : skipAfter stack text = .ok rest) :
    rest.length ≤ text.length := by
  unfold skipAfter at h
  split at h
  · cases h; exact Nat.le_refl _
  · split at h
    · cases h
    · next hr =>
        have := skipSpace_cons_length_lt hr
        have := skipFrom_length_lt h
        omega
    · next hr =>
        have := skipSpace_cons_length_lt hr
        have := skipAfter_length_le h
        omega
    · cases h
  · split at h
    · cases h
    · next hr =>
        have := skipSpace_cons_length_lt hr
        split at h
        · cases h
        · next hk =>
            have := skipKey_length_lt hk
            have := skipFrom_length_lt h
            omega
    · next hr =>
        have := skipSpace_cons_length_lt hr
        have := skipAfter_length_le h
        omega
    · cases h
termination_by text.length

end

/-- The text behind a value. -/
def skipValue (text : List Char) : Except Fault (List Char) :=
  skipFrom [] text

/-- A value that is passed over leaves less than there was. -/
theorem skipValue_length_lt {text rest : List Char}
    (h : skipValue text = .ok rest) : rest.length < text.length :=
  skipFrom_length_lt h

end LinkOrder.Json
