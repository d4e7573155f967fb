/-
Addresses and sizes as a link map writes them, `0x` in front of
hexadecimal digits. Fields are read leniently (blanks around them, either
case, leading zeros); addresses are written in the shortest lower-case
form.
-/
import LinkOrder.Numeral.Unsigned
import LinkOrder.Text.Blank

namespace LinkOrder.Numeral

/-- The number in a field of a link map, and `none` if the field is not
one. -/
def readHex? (field : List Char) : Option UInt64 :=
  match Text.trim field with
  | '0' :: 'x' :: digits => Base.hexadecimal.read? digits
  | _ => none

/-- The shortest form of a number, in lower case. -/
def hexChars (a : UInt64) : List Char :=
  '0' :: 'x' :: Nat.toDigits 16 a.toNat

/-- The text of an address. -/
def formatAddress (a : UInt64) : String := String.ofList (hexChars a)

end LinkOrder.Numeral
