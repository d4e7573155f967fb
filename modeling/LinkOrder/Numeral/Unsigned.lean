/-
Unsigned numerals of 64 bits: one optional plus sign, then at least one
digit of the base, any number of leading zeros included. A numeral whose
value needs more than 64 bits is refused, never wrapped.
-/

namespace LinkOrder.Numeral

/-- How numerals of a base are written: how many digits there are, and
what each is worth. -/
structure Base where
  size : Nat
  digit? : Char → Option Nat

/-- The value of a decimal digit. -/
def decimalDigit? (c : Char) : Option Nat :=
  if '0' ≤ c && c ≤ '9' then some (c.toNat - '0'.toNat) else none

/-- The value of a hexadecimal digit, in either case. -/
def hexDigit? (c : Char) : Option Nat :=
  if '0' ≤ c && c ≤ '9' then some (c.toNat - '0'.toNat)
  else if 'a' ≤ c && c ≤ 'f' then some (c.toNat - 'a'.toNat + 10)
  else if 'A' ≤ c && c ≤ 'F' then some (c.toNat - 'A'.toNat + 10)
  else none

def Base.decimal : Base := ⟨10, decimalDigit?⟩

def Base.hexadecimal : Base := ⟨16, hexDigit?⟩

/-- The value of a row of digits behind ones worth `value` already, and
`none` if some character is no digit. -/
def Base.valueFrom? (base : Base) : (value : Nat) → List Char → Option Nat
  | value, [] => some value
  | value, c :: rest =>
      match base.digit? c with
      | some d => base.valueFrom? (value * base.size + d) rest
      | none => none

/-- A numeral without its sign. -/
def withoutPlus : List Char → List Char
  | '+' :: rest => rest
  | text => text

/-- The number of 64 bits that the whole text writes. -/
def Base.read? (base : Base) (text : List Char) : Option UInt64 :=
  match withoutPlus text with
  | [] => none
  | digits =>
      match base.valueFrom? 0 digits with
      | some value =>
          if value < UInt64.size then some (UInt64.ofNat value) else none
      | none => none

end LinkOrder.Numeral
