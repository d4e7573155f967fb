/-
Readers of values of known types: whole numbers, strings, lists and
variants by name. That a value takes at least one character is part of
what a reader is, and it is why a list can be read item by item.
-/
import LinkOrder.Json.Mark

namespace LinkOrder.Json

/-- A reader of values of one type. -/
structure Reader (α : Type) where
  read : List Char → Result α
  /-- A value leaves less text than it was read from. -/
  read_length_lt : ∀ {text rest : List Char} {value : α},
    read text = .ok (value, rest) → rest.length < text.length

/-- A reader of what a function makes of the values read. -/
def Reader.map {α β : Type} (f : α → β) (reader : Reader α) :
    Reader β where
  read text := (reader.read text).map fun (value, rest) => (f value, rest)
  read_length_lt {text rest value} h := by
    cases hr : reader.read text with
    | error fault => rw [hr] at h; cases h
    | ok result => rw [hr] at h; cases h; exact reader.read_length_lt hr

/-- A whole text as one value, with blanks around it at most. -/
def Reader.readWhole {α : Type} (reader : Reader α) (text : String) :
    Except Error α :=
  let chars := text.toList
  match reader.read chars with
  | .error fault => .error (fault.report chars)
  | .ok (value, rest) =>
      match skipSpace rest with
      | [] => .ok value
      | other =>
          .error ((Fault.next .trailingCharacters other).report chars)

-- ========================================================= wrong types

/-- The value that a text starts with, as far as its type is concerned. A
scalar is read to its end, while lists and objects are left alone. -/
def findValue (text : List Char) : Result Found :=
  match text with
  | 'n' :: rest => (readWord ['u', 'l', 'l'] rest).map (.null, ·)
  | 't' :: rest => (readWord ['r', 'u', 'e'] rest).map (.boolean true, ·)
  | 'f' :: rest =>
      (readWord ['a', 'l', 's', 'e'] rest).map (.boolean false, ·)
  | '"' :: rest =>
      (readString rest).map fun (value, rest) =>
        (.string (String.ofList value), rest)
  | '[' :: _ => .ok (.sequence, text)
  | '\x7b' :: _ => .ok (.map, text)
  | '-' :: rest =>
      (readUnsigned true rest).map fun (value, rest) => (value.found, rest)
  | c :: _ =>
      if isDigit c then
        (readUnsigned false text).map fun (value, rest) =>
          (value.found, rest)
      else .error (.next .expectedValue text)
  | [] => .error (.next .expectedValue [])

/-- The fault of a value of another type than the expected one. -/
def wrongType (expected : String) (text : List Char) : Fault :=
  match findValue text with
  | .error fault => fault
  | .ok (found, rest) => .here (.invalidType found expected) rest

-- ============================================================= scalars

/-- A number, read up to the given text, where a whole one of 64 bits
without a sign is expected. -/
def acceptNatural (number : Number) (rest : List Char) : Result UInt64 :=
  match number with
  | .natural value => .ok (value, rest)
  | .negative value =>
      .error (.here (.invalidValue (.negative value) "u64") rest)
  | .real minus value =>
      .error (.here (.invalidType (.real minus value) "u64") rest)

/-- A numeral, of which the sign may have been read, where a whole number
of 64 bits without a sign is expected. -/
def readUnsignedNatural (minus : Bool) (text : List Char) :
    Result UInt64 :=
  match readUnsigned minus text with
  | .error fault => .error fault
  | .ok (number, rest) => acceptNatural number rest

/-- A whole number of 64 bits without a sign. -/
def readNatural (text : List Char) : Result UInt64 :=
  match skipSpace text with
  | [] => .error (.next .valueMissing [])
  | '-' :: rest => readUnsignedNatural true rest
  | c :: rest =>
      if isDigit c then readUnsignedNatural false (c :: rest)
      else .error (wrongType "u64" (c :: rest))

/-- A string. -/
def readText (text : List Char) : Result String :=
  match skipSpace text with
  | [] => .error (.next .valueMissing [])
  | '"' :: rest =>
      match readString rest with
      | .error fault => .error fault
      | .ok (value, rest) => .ok (String.ofList value, rest)
  | other => .error (wrongType "a string" other)

/-- A natural number is a number, only one of a certain form. -/
theorem readUnsignedNatural_length_lt {minus : Bool}
    {text rest : List Char} {value : UInt64}
    (h : readUnsignedNatural minus text = .ok (value, rest)) :
    rest.length < text.length := by
  unfold readUnsignedNatural at h
  split at h
  · cases h
  · next hn =>
      unfold acceptNatural at h
      split at h <;> cases h
      exact readUnsigned_length_lt hn

/-- The reader of numbers makes progress, as every reader has to. -/
theorem readNatural_length_lt {text rest : List Char} {value : UInt64}
    (h : readNatural text = .ok (value, rest)) :
    rest.length < text.length := by
  unfold readNatural at h
  split at h
  · cases h
  · next hs =>
      exact Nat.lt_trans (readUnsignedNatural_length_lt h)
        (skipSpace_cons_length_lt hs)
  · next hs =>
      split at h
      · exact Nat.lt_of_lt_of_le (readUnsignedNatural_length_lt h)
          (hs ▸ skipSpace_length_le text)
      · cases h

/-- The reader of strings makes progress. -/
theorem readText_length_lt {text rest : List Char} {value : String}
    (h : readText text = .ok (value, rest)) :
    rest.length < text.length := by
  unfold readText at h
  split at h
  · cases h
  · next hs =>
      split at h
      · cases h
      · next hr =>
          cases h
          exact Nat.lt_trans (readString_length_lt hr)
            (skipSpace_cons_length_lt hs)
  · cases h

/-- A reader of whole numbers of 64 bits without a sign. -/
def Reader.natural : Reader UInt64 := ⟨readNatural, readNatural_length_lt⟩

/-- A reader of strings. -/
def Reader.string : Reader String := ⟨readText, readText_length_lt⟩

-- =============================================================== lists

/-- The items of a list, up to its closing bracket. -/
def readItems {α : Type} (item : Reader α) (first : Bool)
    (text : List Char) : Result (List α) :=
  match hs : nextItem first text with
  | .error fault => .error fault
  | .ok none => .ok ([], text)
  | .ok (some start) =>
      match hr : item.read start with
      | .error fault => .error fault
      | .ok (value, rest) =>
          have := Nat.lt_of_lt_of_le (item.read_length_lt hr)
            (nextItem_length_le hs)
          match readItems item false rest with
          | .error fault => .error fault
          | .ok (more, rest) => .ok (value :: more, rest)
termination_by text.length

/-- By induction on what is left of the text: an item takes something, and
so does what stands between two of them. -/
theorem readItems_length_le {α : Type} {item : Reader α} {first : Bool}
    {text rest : List Char} {values : List α}
    (h : readItems item first text = .ok (values, rest)) :
    rest.length ≤ text.length := by
  fun_induction readItems item first text generalizing values with
  | case1 => cases h
  | case2 => cases h; exact Nat.le_refl _
  | case3 => cases h
  | case4 => cases h
  | case5 first text start hs value after hr hlt more final hmore ih =>
      cases h
      have := ih hmore
      omega

/-- A list of items of one type. -/
def readList {α : Type} (item : Reader α) (text : List Char) :
    Result (List α) :=
  match skipSpace text with
  | [] => .error (.next .valueMissing [])
  | '[' :: rest =>
      match readItems item true rest with
      | .error fault => .error fault
      | .ok (items, rest) => (closeList rest).map (items, ·)
  | other => .error (wrongType "a sequence" other)

/-- The reader of lists makes progress, if only by its brackets. -/
theorem readList_length_lt {α : Type} {item : Reader α}
    {text rest : List Char} {values : List α}
    (h : readList item text = .ok (values, rest)) :
    rest.length < text.length := by
  unfold readList at h
  split at h
  · cases h
  · next hs =>
      have := skipSpace_cons_length_lt hs
      split at h
      · cases h
      · next items after hi =>
          have := readItems_length_le hi
          cases hc : closeList after with
          | error fault => rw [hc] at h; cases h
          | ok left =>
              rw [hc] at h
              cases h
              have := closeList_length_lt hc
              omega
  · cases h

/-- A reader of lists of items of one type. -/
def Reader.list {α : Type} (item : Reader α) : Reader (List α) :=
  ⟨readList item, readList_length_lt⟩

-- ============================================================ variants

/-- The name of a variant, looked up. -/
def readVariantName {α : Type} (expected : String)
    (variants : List (String × α)) (text : List Char) : Result α :=
  match readString text with
  | .error fault => .error fault
  | .ok (chars, rest) =>
      let name := String.ofList chars
      match variants.lookup name with
      | some value => .ok (value, rest)
      | none => .error (.here (.unknownVariant name expected) rest)

/-- The end of a variant in object form: a null behind the colon, and the
closing brace. -/
def closeVariant (text : List Char) : Except Fault (List Char) :=
  match readColon text with
  | .error fault => .error fault
  | .ok rest =>
      match skipSpace rest with
      | [] => .error (.next .valueMissing [])
      | 'n' :: rest =>
          match readWord ['u', 'l', 'l'] rest with
          | .error fault => .error fault
          | .ok rest =>
              match skipSpace rest with
              | '\x7d' :: rest => .ok rest
              | [] => .error (.here .objectUnclosed [])
              | other => .error (.here .expectedValue other)
      | other => .error (wrongType "unit" other)

/-- A variant without contents: its name, or an object with the name as
the key of a null. -/
def readVariant {α : Type} (expected : String)
    (variants : List (String × α)) (text : List Char) : Result α :=
  match skipSpace text with
  | [] => .error (.next .valueMissing [])
  | '"' :: rest => readVariantName expected variants rest
  | '\x7b' :: rest =>
      match nextKey true rest with
      | .error fault => .error fault
      | .ok none => .error (.next .expectedValue (skipSpace rest))
      | .ok (some key) =>
          match readVariantName expected variants key with
          | .error fault => .error fault
          | .ok (value, rest) => (closeVariant rest).map (value, ·)
  | other => .error (.next .expectedValue other)

/-- The name of a variant is a string, with quotes at least. -/
theorem readVariantName_length_lt {α : Type} {expected : String}
    {variants : List (String × α)} {text rest : List Char} {value : α}
    (h : readVariantName expected variants text = .ok (value, rest)) :
    rest.length < text.length := by
  unfold readVariantName at h
  split at h
  · cases h
  · next hr =>
      dsimp only at h
      split at h <;> cases h
      exact readString_length_lt hr

/-- The object around a variant ends with a brace. -/
theorem closeVariant_length_lt {text rest : List Char}
    (h : closeVariant text = .ok rest) : rest.length < text.length := by
  unfold closeVariant at h
  split at h
  · cases h
  · next hc =>
      have := readColon_length_lt hc
      split at h
      · cases h
      · next hs =>
          have := skipSpace_cons_length_lt hs
          split at h
          · cases h
          · next hw =>
              have := readWord_length_le hw
              split at h <;> cases h
              next he =>
                have := skipSpace_cons_length_lt he
                omega
      · cases h

/-- The reader of variants makes progress, whether the name stands by
itself or in an object. -/
theorem readVariant_length_lt {α : Type} {expected : String}
    {variants : List (String × α)} {text rest : List Char} {value : α}
    (h : readVariant expected variants text = .ok (value, rest)) :
    rest.length < text.length := by
  unfold readVariant at h
  split at h
  · cases h
  · next hs =>
      exact Nat.lt_trans (readVariantName_length_lt h)
        (skipSpace_cons_length_lt hs)
  · next hs =>
      have := skipSpace_cons_length_lt hs
      split at h
      · cases h
      · cases h
      · next hq =>
          have := nextKey_length_lt hq
          split at h
          · cases h
          · next after hn =>
              have := readVariantName_length_lt hn
              cases hc : closeVariant after with
              | error fault => rw [hc] at h; cases h
              | ok left =>
                  rw [hc] at h
                  cases h
                  have := closeVariant_length_lt hc
                  omega
  · cases h

/-- A reader of variants without contents. -/
def Reader.variant {α : Type} (expected : String)
    (variants : List (String × α)) : Reader α :=
  ⟨readVariant expected variants, readVariant_length_lt⟩

end LinkOrder.Json
