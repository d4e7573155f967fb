/-
The grammar of JSON, apart from any reader. A value is a tree whose leaves
are words, numerals and strings as they are written; a text spells a tree
if it writes its leaves in order, with the marks of lists and objects
between them and blanks where they are allowed (`Spells`).

Leaves are kept as written because their meaning is a matter of its own.
A numeral is a whole number only without point and exponent
(`Literal.integer?`), and a string means something only if its surrogates
are paired (`meaning?`).
-/
import LinkOrder.Json.Reader

namespace LinkOrder.Json

-- ============================================================ numerals

/-- One digit or more. -/
def IsDigits (text : List Char) : Prop :=
  text ≠ [] ∧ ∀ c ∈ text, isDigit c

/-- An exponent as it is written. -/
structure Power where
  letter : Char
  sign : List Char
  digits : List Char
  isLetter : letter = 'e' ∨ letter = 'E'
  isSign : sign = [] ∨ sign = ['+'] ∨ sign = ['-']
  isDigits : IsDigits digits

def Power.text (power : Power) : List Char :=
  power.letter :: (power.sign ++ power.digits)

/-- A numeral as it is written: the digits before the point, those behind
it if there is one, and the exponent if there is one. No zero stands idle
in front. -/
structure Literal where
  minus : Bool
  whole : List Char
  places : Option (List Char)
  power : Option Power
  isDigits : IsDigits whole
  isPlaces : ∀ digits ∈ places, IsDigits digits
  notIdle : whole.head? = some '0' → whole = ['0']

namespace Literal

/-- The point and the digits behind it. -/
def fraction (literal : Literal) : List Char :=
  literal.places.elim [] ('.' :: ·)

def powerText (literal : Literal) : List Char :=
  literal.power.elim [] Power.text

/-- A numeral without its sign. -/
def unsigned (literal : Literal) : List Char :=
  literal.whole ++ (literal.fraction ++ literal.powerText)

def text (literal : Literal) : List Char :=
  (if literal.minus then ['-'] else []) ++ literal.unsigned

/-- The value of the digits before the point. -/
def wholeValue (literal : Literal) : Nat :=
  (Numeral.Base.decimal.valueFrom? 0 literal.whole).getD 0

/-- The exact value of a numeral without point and exponent. -/
def integer? (literal : Literal) : Option Int :=
  if literal.places.isSome || literal.power.isSome then none
  else if literal.minus then some (-(literal.wholeValue : Int))
  else some literal.wholeValue

/-- The number of 64 bits that a numeral without sign, point and exponent
writes, if they hold it. -/
def natural? (literal : Literal) : Option UInt64 :=
  if literal.minus || literal.places.isSome || literal.power.isSome then
    none
  else if literal.wholeValue < UInt64.size then
    some (UInt64.ofNat literal.wholeValue)
  else none

end Literal

-- ============================================================= strings

/-- A piece of a string as it is written: a character that stands for
itself, one behind a backslash, or four digits. -/
inductive Piece where
  | plain (c : Char) (h : c ≠ '"' ∧ c ≠ '\\' ∧ ¬ c < ' ')
  | short (letter c : Char) (h : shortEscape? letter = some c)
  | code (digits : Char × Char × Char × Char) (value : Nat)
      (h : fourDigits? digits.1 digits.2.1 digits.2.2.1 digits.2.2.2
        = some value)

def Piece.text : Piece → List Char
  | plain c _ => [c]
  | short letter _ _ => ['\\', letter]
  | code (a, b, c, d) _ _ => ['\\', 'u', a, b, c, d]

/-- The contents of a string, between its quotes. -/
def rawText (pieces : List Piece) : List Char := pieces.flatMap Piece.text

def isHighSurrogate (value : Nat) : Bool :=
  0xd800 ≤ value && value ≤ 0xdbff

def isLowSurrogate (value : Nat) : Bool :=
  0xdc00 ≤ value && value ≤ 0xdfff

/-- The character of two surrogates. -/
def paired (high low : Nat) : Char :=
  Char.ofNat ((high - 0xd800) * 1024 + (low - 0xdc00) + 0x10000)

/-- What a string says, if its surrogates are paired. -/
def meaning? : List Piece → Option (List Char)
  | [] => some []
  | .plain c _ :: more => (meaning? more).map (c :: ·)
  | .short _ c _ :: more => (meaning? more).map (c :: ·)
  | .code _ value _ :: more =>
      if isLowSurrogate value then none
      else if isHighSurrogate value then
        match more with
        | .code _ low _ :: more =>
            if isLowSurrogate low then
              (meaning? more).map (paired value low :: ·)
            else none
        | _ => none
      else (meaning? more).map (Char.ofNat value :: ·)

/-- What a string says, as one. -/
def stringOf? (pieces : List Piece) : Option String :=
  (meaning? pieces).map String.ofList

-- =============================================================== trees

/-- A value as it is written, without the blanks between its marks. -/
inductive Tree where
  | null
  | boolean (value : Bool)
  | number (literal : Literal)
  | string (pieces : List Piece)
  | list (items : List Tree)
  | object (members : List (List Piece × Tree))

/-- Nothing but blanks. -/
def Blank (text : List Char) : Prop := ∀ c ∈ text, isSpace c

mutual

/-- The text spells the value, from its first mark to its last. -/
inductive Spells : List Char → Tree → Prop
  | null : Spells ['n', 'u', 'l', 'l'] .null
  | true : Spells ['t', 'r', 'u', 'e'] (.boolean true)
  | false : Spells ['f', 'a', 'l', 's', 'e'] (.boolean false)
  | number (literal : Literal) : Spells literal.text (.number literal)
  | string (pieces : List Piece) :
      Spells ('"' :: (rawText pieces ++ ['"'])) (.string pieces)
  | list {body : List Char} {items : List Tree}
      (hitems : SpellsItems true body items) :
      Spells ('[' :: body) (.list items)
  | object {body : List Char} {members : List (List Piece × Tree)}
      (hmembers : SpellsMembers true body members) :
      Spells ('\x7b' :: body) (.object members)

/-- The text spells what is left of a list: the items that are left and
the closing bracket. Behind an item a comma stands before the next. -/
inductive SpellsItems : Bool → List Char → List Tree → Prop
  | close {first : Bool} {gap : List Char} (hgap : Blank gap) :
      SpellsItems first (gap ++ [']']) []
  | first {gap core more : List Char} {item : Tree} {items : List Tree}
      (hgap : Blank gap) (hitem : Spells core item)
      (hmore : SpellsItems false more items) :
      SpellsItems true (gap ++ (core ++ more)) (item :: items)
  | next {before after core more : List Char} {item : Tree}
      {items : List Tree} (hbefore : Blank before) (hafter : Blank after)
      (hitem : Spells core item) (hmore : SpellsItems false more items) :
      SpellsItems false (before ++ ',' :: (after ++ (core ++ more)))
        (item :: items)

/-- The text spells what is left of an object. -/
inductive SpellsMembers :
    Bool → List Char → List (List Piece × Tree) → Prop
  | close {first : Bool} {gap : List Char} (hgap : Blank gap) :
      SpellsMembers first (gap ++ ['\x7d']) []
  | first {gap core more : List Char} {member : List Piece × Tree}
      {members : List (List Piece × Tree)} (hgap : Blank gap)
      (hmember : SpellsMember core member)
      (hmore : SpellsMembers false more members) :
      SpellsMembers true (gap ++ '"' :: (core ++ more)) (member :: members)
  | next {before after core more : List Char} {member : List Piece × Tree}
      {members : List (List Piece × Tree)} (hbefore : Blank before)
      (hafter : Blank after) (hmember : SpellsMember core member)
      (hmore : SpellsMembers false more members) :
      SpellsMembers false
        (before ++ ',' :: (after ++ '"' :: (core ++ more)))
        (member :: members)

/-- The text spells a member, behind the quote that opens its key. -/
inductive SpellsMember : List Char → List Piece × Tree → Prop
  | mk {before after core : List Char} {key : List Piece} {value : Tree}
      (hbefore : Blank before) (hafter : Blank after)
      (hvalue : Spells core value) :
      SpellsMember
        (rawText key ++ '"' :: (before ++ ':' :: (after ++ core)))
        (key, value)

end

/-- A whole text that spells the value, with blanks around it. -/
def Document (text : List Char) (tree : Tree) : Prop :=
  ∃ before core after, Blank before ∧ Spells core tree ∧ Blank after
    ∧ text = before ++ (core ++ after)

-- ============================================================== blanks

/-- There need be no space between two tokens. -/
theorem blank_nil : Blank [] := nofun

/-- Blanks are passed over. -/
theorem skipSpace_append {gap : List Char} (h : Blank gap)
    (text : List Char) : skipSpace (gap ++ text) = skipSpace text :=
  List.dropWhile_append_of_pos h

/-- A token is not passed over. -/
theorem skipSpace_cons {c : Char} (h : isSpace c = false)
    (rest : List Char) : skipSpace (c :: rest) = c :: rest :=
  List.dropWhile_cons_of_neg (by simp [h])

/-- Behind the blanks the next mark is found. -/
theorem skipSpace_mark {gap : List Char} {c : Char} (hgap : Blank gap)
    (hc : isSpace c = false) (rest : List Char) :
    skipSpace (gap ++ c :: rest) = c :: rest := by
  rw [skipSpace_append hgap, skipSpace_cons hc]

/-- Every text has its spaces in front, and these can be told apart from
what follows. -/
theorem exists_blank (text : List Char) :
    ∃ gap, Blank gap ∧ text = gap ++ skipSpace text := by
  refine ⟨text.takeWhile isSpace, fun c hc => ?_,
    List.takeWhile_append_dropWhile.symm⟩
  exact List.all_eq_true.1 List.all_takeWhile c hc

/-- Behind blanks stands no blank. -/
theorem isSpace_of_skipSpace {text rest : List Char} {c : Char}
    (h : skipSpace text = c :: rest) : isSpace c = false := by
  have hhead := List.head?_dropWhile_not isSpace text
  unfold skipSpace at h
  rw [h] at hhead
  simpa using hhead

end LinkOrder.Json
