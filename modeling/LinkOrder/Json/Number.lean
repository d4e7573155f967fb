/-
Numbers of JSON. A numeral without point and exponent is a whole number
as long as 64 bits hold it; every other one is a floating point number.
Of those the first digits that fit 64 bits are kept, the number they form
is scaled by one power of ten, and each of the two steps rounds. Skipped
numbers are checked for their form alone.
-/
import LinkOrder.Json.Token

namespace LinkOrder.Json

open Numeral (Binary64 decimalDigit?)

/-- The number that a numeral writes. -/
inductive Number where
  | natural (value : UInt64)
  | negative (value : Int)
  | real (minus : Bool) (value : Binary64)
deriving DecidableEq, Repr

/-- A number as it is named where another type was expected. -/
def Number.found : Number → Found
  | natural value => .natural value
  | negative value => .negative value
  | real minus value => .real minus value

/-- Whether the character is a decimal digit. -/
def isDigit (c : Char) : Bool := (decimalDigit? c).isSome

/-- The text behind its digits. -/
def skipDigits (text : List Char) : List Char := text.dropWhile isDigit

/-- There need not be a digit: the caller knows whether one is due. -/
theorem skipDigits_length_le (text : List Char) :
    (skipDigits text).length ≤ text.length :=
  (List.dropWhile_sublist _).length_le

/-- Digits read into a significand of 64 bits. `taken` counts the digits
that were, `dropped` those that came when there was no more room: the
first digit that does not fit, and all after it. -/
structure Digits where
  significand : Nat
  taken : Nat
  dropped : Nat
deriving DecidableEq, Repr

/-- The digits of a text behind ones that gave `significand` already. -/
def readDigits (significand : Nat) (text : List Char) :
    Digits × List Char :=
  match text with
  | [] => (⟨significand, 0, 0⟩, [])
  | c :: rest =>
      match decimalDigit? c with
      | none => (⟨significand, 0, 0⟩, c :: rest)
      | some d =>
          let value := significand * 10 + d
          if value < UInt64.size then
            let (more, rest) := readDigits value rest
            ({ more with taken := more.taken + 1 }, rest)
          else
            let after := skipDigits rest
            (⟨significand, 0, 1 + (rest.length - after.length)⟩, after)

/-- As `skipDigits_length_le`, for digits that are kept. -/
theorem readDigits_length_le {significand : Nat}
    {text rest : List Char} {digits : Digits}
    (h : readDigits significand text = (digits, rest)) :
    rest.length ≤ text.length := by
  induction text generalizing significand digits with
  | nil => cases h; exact Nat.le_refl _
  | cons c text ih =>
      unfold readDigits at h
      split at h
      · cases h; exact Nat.le_refl _
      · dsimp only at h
        split at h
        · cases h; exact Nat.le_succ_of_le (ih rfl)
        · cases h; exact Nat.le_succ_of_le (skipDigits_length_le _)

-- ==================================================== floating point

/-- The nearest number to a power of ten, up to the greatest that is
finite. -/
def powerOfTen (n : Nat) : Binary64 :=
  (Binary64.ofRatio? (Nat.pow 10 n) 1).getD .zero

/-- A number divided by a power of ten, by steps of the greatest finite
one. -/
def divideByPower (value : Binary64) (power : Nat) : Binary64 :=
  if power ≤ 308 then (value.div? (powerOfTen power)).getD .zero
  else if value.significand = 0 then value
  else
    divideByPower ((value.div? (powerOfTen 308)).getD .zero) (power - 308)
termination_by power

/-- A significand scaled by a power of ten, or none if the result is
beyond the finite numbers. -/
def scale? (significand : Nat) (exponent : Int) : Option Binary64 :=
  let value := (Binary64.ofRatio? significand 1).getD .zero
  match exponent with
  | .ofNat n =>
      if n ≤ 308 then value.mul? (powerOfTen n)
      else if significand = 0 then some value
      else none
  | .negSucc n => some (divideByPower value (n + 1))

/-- The scaled number, with its sign. -/
def readScaled (minus : Bool) (significand : Nat) (exponent : Int)
    (rest : List Char) : Result Number :=
  match scale? significand exponent with
  | some value => .ok (.real minus value, rest)
  | none => .error (.here .numberOutOfRange rest)

/-- To scale what was read takes nothing more of the text. -/
theorem readScaled_length_le {minus : Bool} {significand : Nat}
    {exponent : Int} {text rest : List Char} {number : Number}
    (h : readScaled minus significand exponent text
      = .ok (number, rest)) : rest.length ≤ text.length := by
  unfold readScaled at h
  split at h
  · cases h; exact Nat.le_refl _
  · cases h

/-- The greatest exponent that is counted. -/
def exponentLimit : Nat := 0x8000_0000

/-- The digits of an exponent behind ones worth `value`; `none` as soon
as they go beyond what is counted. -/
def readExponentDigits (value : Nat) (text : List Char) :
    Option Nat × List Char :=
  match text with
  | [] => (some value, [])
  | c :: rest =>
      match decimalDigit? c with
      | none => (some value, c :: rest)
      | some d =>
          if value * 10 + d < exponentLimit then
            readExponentDigits (value * 10 + d) rest
          else (none, rest)

/-- By induction on the text. Where the digits go beyond what is counted,
the reader stops in their midst and leaves the others to its caller. -/
theorem readExponentDigits_length_le {value : Nat}
    {text rest : List Char} {power : Option Nat}
    (h : readExponentDigits value text = (power, rest)) :
    rest.length ≤ text.length := by
  induction text generalizing value with
  | nil => cases h; exact Nat.le_refl _
  | cons c text ih =>
      unfold readExponentDigits at h
      split at h
      · cases h; exact Nat.le_refl _
      · split at h
        · exact Nat.le_succ_of_le (ih h)
        · cases h; exact Nat.le_succ _

/-- An exponent of which the letter has been read, behind a significand
with an exponent of its own. -/
def readExponent (minus : Bool) (significand : Nat) (exponent : Int)
    (text : List Char) : Result Number :=
  let (down, digits) : Bool × List Char :=
    match text with
    | '+' :: rest => (false, rest)
    | '-' :: rest => (true, rest)
    | _ => (false, text)
  match digits with
  | [] => .error (.here .valueMissing [])
  | c :: rest =>
      match decimalDigit? c with
      | none => .error (.next .invalidNumber (c :: rest))
      | some d =>
          match readExponentDigits d rest with
          | (some power, rest) =>
              readScaled minus significand
                (if down then exponent - power else exponent + power) rest
          | (none, rest) =>
              if significand ≠ 0 && !down then
                .error (.here .numberOutOfRange rest)
              else .ok (.real minus .zero, skipDigits rest)

/-- That an exponent takes a digit is not needed, as the number in front of
it has taken some already. -/
theorem readExponent_length_le {minus : Bool} {significand : Nat}
    {exponent : Int} {text rest : List Char} {number : Number}
    (h : readExponent minus significand exponent text
      = .ok (number, rest)) : rest.length ≤ text.length := by
  unfold readExponent at h
  split at h
  next down digits hsign =>
    have hle : digits.length ≤ text.length := by
      split at hsign <;> cases hsign <;> simp
    split at h
    · cases h
    · next c tail =>
        refine Nat.le_trans ?_ hle
        split at h
        · cases h
        · split at h
          · next hp =>
              exact Nat.le_succ_of_le (Nat.le_trans
                (readScaled_length_le h) (readExponentDigits_length_le hp))
          · next hp =>
              split at h
              · cases h
              · cases h
                exact Nat.le_succ_of_le (Nat.le_trans
                  (skipDigits_length_le _)
                  (readExponentDigits_length_le hp))

/-- The places of a numeral of which the point has been read. -/
def readPlaces (minus : Bool) (significand : Nat) (exponent : Int)
    (text : List Char) : Result Number :=
  let (digits, rest) := readDigits significand text
  if digits.taken = 0 && digits.dropped = 0 then
    match rest with
    | [] => .error (.next .valueMissing [])
    | _ => .error (.next .invalidNumber rest)
  else
    let exponent := exponent - digits.taken
    match rest with
    | 'e' :: rest | 'E' :: rest =>
        readExponent minus digits.significand exponent rest
    | _ => readScaled minus digits.significand exponent rest

/-- Of the places behind a point, whether an exponent follows them or
not. -/
theorem readPlaces_length_le {minus : Bool} {significand : Nat}
    {exponent : Int} {text rest : List Char} {number : Number}
    (h : readPlaces minus significand exponent text
      = .ok (number, rest)) : rest.length ≤ text.length := by
  unfold readPlaces at h
  split at h
  next digits after hd =>
    have hle := readDigits_length_le hd
    split at h
    · split at h <;> cases h
    · dsimp only at h
      split at h
      · have := readExponent_length_le h
        simp only [List.length_cons] at hle
        omega
      · have := readExponent_length_le h
        simp only [List.length_cons] at hle
        omega
      · exact Nat.le_trans (readScaled_length_le h) hle

-- ============================================================= numbers

/-- A whole number with its sign. Minus zero is a floating point number,
and so is a negative number that 64 bits with a sign do not hold. -/
def wholeNumber (minus : Bool) (significand : Nat) : Number :=
  if minus then
    if 0 < significand && significand ≤ 0x8000_0000_0000_0000 then
      .negative (-(significand : Int))
    else
      .real true ((Binary64.ofRatio? significand 1).getD .zero)
  else .natural (UInt64.ofNat significand)

/-- What follows the whole part of a numeral. -/
def readFraction (minus : Bool) (digits : Digits) (text : List Char) :
    Result Number :=
  match text with
  | '.' :: rest => readPlaces minus digits.significand digits.dropped rest
  | 'e' :: rest | 'E' :: rest =>
      readExponent minus digits.significand digits.dropped rest
  | _ =>
      if digits.dropped = 0 then
        .ok (wholeNumber minus digits.significand, text)
      else readScaled minus digits.significand digits.dropped text

/-- Behind the whole part there need be nothing, neither a point nor an
exponent. -/
theorem readFraction_length_le {minus : Bool} {digits : Digits}
    {text rest : List Char} {number : Number}
    (h : readFraction minus digits text = .ok (number, rest)) :
    rest.length ≤ text.length := by
  unfold readFraction at h
  split at h
  · exact Nat.le_succ_of_le (readPlaces_length_le h)
  · exact Nat.le_succ_of_le (readExponent_length_le h)
  · exact Nat.le_succ_of_le (readExponent_length_le h)
  · split at h
    · cases h; exact Nat.le_refl _
    · exact readScaled_length_le h

/-- A numeral whose sign, if any, has been read. -/
def readUnsigned (minus : Bool) (text : List Char) : Result Number :=
  match text with
  | [] => .error (.here .valueMissing [])
  | '0' :: rest =>
      if (rest.head?.map isDigit).getD false then
        .error (.next .invalidNumber rest)
      else readFraction minus ⟨0, 1, 0⟩ rest
  | c :: rest =>
      match decimalDigit? c with
      | some d =>
          let (digits, rest) := readDigits d rest
          readFraction minus digits rest
      | none => .error (.next .invalidNumber (c :: rest))

/-- A number has a digit at least. On this rests that readers of lists of
numbers end. -/
theorem readUnsigned_length_lt {minus : Bool} {text rest : List Char}
    {number : Number} (h : readUnsigned minus text = .ok (number, rest)) :
    rest.length < text.length := by
  unfold readUnsigned at h
  split at h
  · cases h
  · split at h
    · cases h
    · exact Nat.lt_succ_of_le (readFraction_length_le h)
  · split at h
    · split at h
      next hd =>
        exact Nat.lt_succ_of_le (Nat.le_trans
          (readFraction_length_le h) (readDigits_length_le hd))
    · cases h

-- ===================================================== skipped numbers

/-- The text behind at least one digit. -/
def skipSomeDigits (text : List Char) : Except Fault (List Char) :=
  match text with
  | c :: rest =>
      if isDigit c then .ok (skipDigits rest)
      else .error (.next .invalidNumber (c :: rest))
  | [] => .error (.next .invalidNumber [])

/-- The text behind the exponent of a skipped numeral, of which the
letter has been read. -/
def skipExponent (text : List Char) : Except Fault (List Char) :=
  match text with
  | '+' :: rest => skipSomeDigits rest
  | '-' :: rest => skipSomeDigits rest
  | _ => skipSomeDigits text

/-- The text behind the exponent of a skipped numeral, if it has one. -/
def skipPower (text : List Char) : Except Fault (List Char) :=
  match text with
  | 'e' :: rest => skipExponent rest
  | 'E' :: rest => skipExponent rest
  | _ => .ok text

/-- The text behind what follows the whole part of a skipped numeral. -/
def skipFraction (text : List Char) : Except Fault (List Char) :=
  match text with
  | '.' :: rest =>
      match skipSomeDigits rest with
      | .ok rest => skipPower rest
      | .error fault => .error fault
  | _ => skipPower text

/-- The text behind a skipped numeral whose sign has been read. -/
def skipUnsigned (text : List Char) : Except Fault (List Char) :=
  match text with
  | '0' :: rest =>
      if (rest.head?.map isDigit).getD false then
        .error (.next .invalidNumber rest)
      else skipFraction rest
  | c :: rest =>
      if isDigit c then skipFraction (skipDigits rest)
      else .error (.next .invalidNumber (c :: rest))
  | [] => .error (.next .invalidNumber [])

/-- Where a digit is demanded one is taken. -/
theorem skipSomeDigits_length_lt {text rest : List Char}
    (h : skipSomeDigits text = .ok rest) : rest.length < text.length := by
  unfold skipSomeDigits at h
  split at h
  · split at h
    · cases h
      exact Nat.lt_succ_of_le (skipDigits_length_le _)
    · cases h
  · cases h

/-- What may be left out takes nothing where it is. -/
theorem skipPower_length_le {text rest : List Char}
    (h : skipPower text = .ok rest) : rest.length ≤ text.length := by
  have hexp : ∀ {tail : List Char}, skipExponent tail = .ok rest →
      rest.length ≤ tail.length + 1 := by
    intro tail ht
    unfold skipExponent at ht
    split at ht
    · have := skipSomeDigits_length_lt ht
      simp only [List.length_cons]
      omega
    · have := skipSomeDigits_length_lt ht
      simp only [List.length_cons]
      omega
    · have := skipSomeDigits_length_lt ht
      omega
  unfold skipPower at h
  split at h
  · exact hexp h
  · exact hexp h
  · cases h; exact Nat.le_refl _

/-- As `readFraction_length_le`, for a number that is passed over. -/
theorem skipFraction_length_le {text rest : List Char}
    (h : skipFraction text = .ok rest) : rest.length ≤ text.length := by
  unfold skipFraction at h
  split at h
  · split at h
    · next hd =>
        have := skipSomeDigits_length_lt hd
        have := skipPower_length_le h
        simp only [List.length_cons]
        omega
    · cases h
  · exact skipPower_length_le h

/-- As `readUnsigned_length_lt`, for a number that is passed over. -/
theorem skipUnsigned_length_lt {text rest : List Char}
    (h : skipUnsigned text = .ok rest) : rest.length < text.length := by
  unfold skipUnsigned at h
  split at h
  · split at h
    · cases h
    · exact Nat.lt_succ_of_le (skipFraction_length_le h)
  · split at h
    · exact Nat.lt_succ_of_le
        (Nat.le_trans (skipFraction_length_le h) (skipDigits_length_le _))
    · cases h
  · cases h

end LinkOrder.Json
