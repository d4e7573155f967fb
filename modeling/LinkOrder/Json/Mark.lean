/-
The marks that stand between the parts of lists and objects: what leads
to the next item or the next key, and what ends the whole.
-/
import LinkOrder.Json.Skip

namespace LinkOrder.Json

-- =============================================================== lists

/-- What stands before the next item of a list: `none` at its end, else
the text at which the item starts. -/
def nextItem (first : Bool) (text : List Char) :
    Except Fault (Option (List Char)) :=
  match skipSpace text with
  | [] => .error (.next .listUnclosed [])
  | ']' :: _ => .ok none
  | c :: rest =>
      if first then .ok (some (c :: rest))
      else if c = ',' then
        match skipSpace rest with
        | [] => .error (.next .valueMissing [])
        | ']' :: rest => .error (.next .trailingComma (']' :: rest))
        | item => .ok (some item)
      else .error (.next .expectedListEnd (c :: rest))

/-- Leaves a list whose items have been read. -/
def closeList (text : List Char) : Except Fault (List Char) :=
  match skipSpace text with
  | [] => .error (.next .listUnclosed [])
  | ']' :: rest => .ok rest
  | ',' :: rest =>
      match skipSpace rest with
      | ']' :: rest => .error (.next .trailingComma (']' :: rest))
      | other => .error (.next .trailingCharacters other)
  | other => .error (.next .trailingCharacters other)

/-- The next item is looked for ahead: no more than spaces and a comma are
taken on the way. -/
theorem nextItem_length_le {first : Bool} {text start : List Char}
    (h : nextItem first text = .ok (some start)) :
    start.length ≤ text.length := by
  unfold nextItem at h
  split at h
  · cases h
  · cases h
  · next c rest _ hs =>
      have hle := skipSpace_length_le text
      rw [hs] at hle
      split at h
      · cases h; exact hle
      · split at h
        · split at h
          · cases h
          · cases h
          · cases h
            exact Nat.le_trans (skipSpace_length_le rest)
              (Nat.le_of_succ_le hle)
        · cases h

/-- A list that was closed has had its bracket taken. -/
theorem closeList_length_lt {text rest : List Char}
    (h : closeList text = .ok rest) : rest.length < text.length := by
  unfold closeList at h
  split at h
  · cases h
  · next hs => cases h; exact skipSpace_cons_length_lt hs
  · split at h <;> cases h
  · cases h

-- ============================================================= objects

/-- What stands before the next member of an object: `none` at its end,
else the text behind the opening quote of the key. -/
def nextKey (first : Bool) (text : List Char) :
    Except Fault (Option (List Char)) :=
  match skipSpace text with
  | [] => .error (.next .objectUnclosed [])
  | '\x7d' :: _ => .ok none
  | c :: rest =>
      if first then
        if c = '"' then .ok (some rest)
        else .error (.next .keyNotString (c :: rest))
      else if c = ',' then
        match skipSpace rest with
        | [] => .error (.next .valueMissing [])
        | '"' :: key => .ok (some key)
        | '\x7d' :: rest => .error (.next .trailingComma ('\x7d' :: rest))
        | other => .error (.next .keyNotString other)
      else .error (.next .expectedObjectEnd (c :: rest))

/-- Leaves an object whose members have been read. -/
def closeObject (text : List Char) : Except Fault (List Char) :=
  match skipSpace text with
  | [] => .error (.next .objectUnclosed [])
  | '\x7d' :: rest => .ok rest
  | ',' :: rest => .error (.next .trailingComma (',' :: rest))
  | other => .error (.next .trailingCharacters other)

/-- A key is read from behind its quote, which has been taken. -/
theorem nextKey_length_lt {first : Bool} {text key : List Char}
    (h : nextKey first text = .ok (some key)) :
    key.length < text.length := by
  unfold nextKey at h
  split at h
  · cases h
  · cases h
  · next hs =>
      have := skipSpace_cons_length_lt hs
      split at h
      · split at h <;> cases h
        exact this
      · split at h
        · split at h <;> cases h
          next hq => exact Nat.lt_trans (skipSpace_cons_length_lt hq) this
        · cases h

/-- An object that was closed has had its brace taken. -/
theorem closeObject_length_lt {text rest : List Char}
    (h : closeObject text = .ok rest) : rest.length < text.length := by
  unfold closeObject at h
  split at h <;> cases h
  next hs => exact skipSpace_cons_length_lt hs

end LinkOrder.Json
