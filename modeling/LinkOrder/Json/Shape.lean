/-
Records. A record is read from an object with its fields as members, in
any order and among others that are skipped, or from a list of its fields
in order. What a record type needs to be read so is its `Shape`. Errors
that concern a whole record are placed behind it, after an attempt to
leave its brackets.
-/
import LinkOrder.Json.Reader

namespace LinkOrder.Json

-- ================================================ faults behind records

/-- Where an attempt to leave a list ends, be it successful or not. -/
def leaveList (text : List Char) : List Char :=
  match skipSpace text with
  | ']' :: rest => rest
  | ',' :: rest => skipSpace rest
  | other => other

/-- Where an attempt to leave an object ends, be it successful or not. -/
def leaveObject (text : List Char) : List Char :=
  match skipSpace text with
  | '\x7d' :: rest => rest
  | other => other

/-- A fault with a place: if it has none yet, the one behind the brackets
that are left now. -/
def Fault.leaving (leave : List Char → List Char) : Fault → Fault
  | placed reason left => placed reason left
  | pending reason rest => here reason (leave rest)

-- ============================================================= records

/-- A field of a record, as a step in filling `State`: its name, whether
it has been filled, and how it is read into the state. -/
structure Field (State : Type) where
  name : String
  isFilled : State → Bool
  read : State → Reader State

/-- How a record is read. -/
structure Shape (State α : Type) where
  /-- The name by which errors call the record. -/
  name : String
  /-- The state before any field is read. -/
  blank : State
  /-- The fields in the order in which a list gives them. -/
  fields : List (Field State)
  /-- Whether a list may end before its last field. -/
  mayEndEarly : Bool
  /-- The record, if no field is missing. -/
  finish : State → Except Reason α

/-- The record that a filled state gives, where `rest` is left. -/
def Shape.complete {State α : Type} (shape : Shape State α)
    (filled : State) (rest : List Char) : Result α :=
  match shape.finish filled with
  | .ok record => .ok (record, rest)
  | .error reason => .error (.pending reason rest)

/-- To complete a record reads nothing: it only looks at what was
filled. -/
theorem Shape.complete_rest {State α : Type} {shape : Shape State α}
    {filled : State} {rest left : List Char} {record : α}
    (h : shape.complete filled rest = .ok (record, left)) :
    left = rest := by
  unfold Shape.complete at h
  split at h <;> cases h
  rfl

-- ====================================================== records in lists

/-- The record in a list of which `count` fields have been read, up to the
closing bracket. -/
def readFields {State α : Type} (shape : Shape State α) (count : Nat)
    (state : State) (text : List Char) : List (Field State) → Result α
  | [] => shape.complete state text
  | field :: fields =>
      match nextItem (count = 0) text with
      | .error fault => .error fault
      | .ok none =>
          if shape.mayEndEarly then shape.complete state text
          else
            .error (.pending
              (.invalidLength count ("struct " ++ shape.name ++ " with "
                ++ toString shape.fields.length ++ " elements")) text)
      | .ok (some start) =>
          match (field.read state).read start with
          | .error fault => .error fault
          | .ok (state, rest) => readFields shape (count + 1) state rest fields

/-- A record written as a list takes something for each field that it has,
and may have none. -/
theorem readFields_length_le {State α : Type} {shape : Shape State α}
    {count : Nat} {state : State} {text rest : List Char}
    {fields : List (Field State)} {record : α}
    (h : readFields shape count state text fields = .ok (record, rest)) :
    rest.length ≤ text.length := by
  fun_induction readFields shape count state text fields with
  | case1 => exact Nat.le_of_eq (congrArg _ (Shape.complete_rest h))
  | case2 => cases h
  | case3 => exact Nat.le_of_eq (congrArg _ (Shape.complete_rest h))
  | case4 => cases h
  | case5 => cases h
  | case6 count state text field fields start hs next after hr ih =>
      have := nextItem_length_le hs
      have := (field.read state).read_length_lt hr
      have := ih h
      omega

-- ==================================================== records in objects

/-- One member whose key has been read: a field, which must not be there
yet, or something that is skipped. -/
def readMember {State : Type} (fields : List (Field State)) (state : State)
    (key : String) (text : List Char) : Result State :=
  match fields.find? (·.name = key) with
  | none =>
      match readColon text with
      | .error fault => .error fault
      | .ok rest => (skipValue rest).map (state, ·)
  | some field =>
      if field.isFilled state then
        .error (.pending (.duplicateField key) text)
      else
        match readColon text with
        | .error fault => .error fault
        | .ok rest => (field.read state).read rest

/-- A member is taken, known or not. What is unknown is skipped, and that
takes something as well. -/
theorem readMember_length_lt {State : Type} {fields : List (Field State)}
    {state filled : State} {key : String} {text rest : List Char}
    (h : readMember fields state key text = .ok (filled, rest)) :
    rest.length < text.length := by
  unfold readMember at h
  split at h
  · split at h
    · cases h
    · next after hc =>
        have := readColon_length_lt hc
        cases hv : skipValue after with
        | error fault => rw [hv] at h; cases h
        | ok left =>
            rw [hv] at h
            cases h
            have := skipValue_length_lt hv
            omega
  · next field _ =>
      split at h
      · cases h
      · split at h
        · cases h
        · next hc =>
            have := readColon_length_lt hc
            have := (field.read state).read_length_lt h
            omega

/-- The record in an object of which some members have been read, up to
the closing brace. -/
def readMembers {State α : Type} (shape : Shape State α) (first : Bool)
    (state : State) (text : List Char) : Result α :=
  match hk : nextKey first text with
  | .error fault => .error fault
  | .ok none => shape.complete state text
  | .ok (some start) =>
      match hs : readString start with
      | .error fault => .error fault
      | .ok (key, afterKey) =>
          match hm : readMember shape.fields state (String.ofList key)
            afterKey with
          | .error fault => .error fault
          | .ok (state, rest) =>
              have := nextKey_length_lt hk
              have := readString_length_lt hs
              have := readMember_length_lt hm
              readMembers shape false state rest
termination_by text.length

/-- By the recursion of the reader: each round takes a key and a member. -/
theorem readMembers_length_le {State α : Type} {shape : Shape State α}
    {first : Bool} {state : State} {text rest : List Char} {record : α}
    (h : readMembers shape first state text = .ok (record, rest)) :
    rest.length ≤ text.length := by
  fun_induction readMembers shape first state text with
  | case1 => cases h
  | case2 => exact Nat.le_of_eq (congrArg _ (Shape.complete_rest h))
  | case3 => cases h
  | case4 => cases h
  | case5 _ _ _ _ _ _ _ _ _ _ _ hkey hname hmember ih =>
      have := ih h
      omega

-- =========================================================== both forms

/-- A record. -/
def Shape.read {State α : Type} (shape : Shape State α)
    (text : List Char) : Result α :=
  match skipSpace text with
  | [] => .error (.next .valueMissing [])
  | '[' :: rest =>
      match readFields shape 0 shape.blank rest shape.fields with
      | .error fault => .error (fault.leaving leaveList)
      | .ok (record, rest) => (closeList rest).map (record, ·)
  | '\x7b' :: rest =>
      match readMembers shape true shape.blank rest with
      | .error fault => .error (fault.leaving leaveObject)
      | .ok (record, rest) => (closeObject rest).map (record, ·)
  | other => .error (wrongType ("struct " ++ shape.name) other)

/-- The reader of a shape makes progress, in either form of a record. -/
theorem Shape.read_length_lt {State α : Type} {shape : Shape State α}
    {text rest : List Char} {record : α}
    (h : shape.read text = .ok (record, rest)) :
    rest.length < text.length := by
  unfold Shape.read at h
  split at h
  · cases h
  · next hs =>
      have := skipSpace_cons_length_lt hs
      split at h
      · cases h
      · next after hf =>
          have := readFields_length_le hf
          cases hc : closeList after with
          | error fault => rw [hc] at h; cases h
          | ok left =>
              rw [hc] at h
              cases h
              have := closeList_length_lt hc
              omega
  · next hs =>
      have := skipSpace_cons_length_lt hs
      split at h
      · cases h
      · next after hm =>
          have := readMembers_length_le hm
          cases hc : closeObject after with
          | error fault => rw [hc] at h; cases h
          | ok left =>
              rw [hc] at h
              cases h
              have := closeObject_length_lt hc
              omega
  · cases h

/-- A reader of records of a shape. -/
def Shape.reader {State α : Type} (shape : Shape State α) : Reader α :=
  ⟨shape.read, shape.read_length_lt⟩

end LinkOrder.Json
