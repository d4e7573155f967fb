/-
Quotients written with a set number of decimal places. The value itself
is rounded, ties to even, and the places are always written.
-/
import LinkOrder.Numeral.Binary64

namespace LinkOrder.Numeral

/-- The digits of a number, zeros in front of it up to a width. -/
def paddedDigits (width value : Nat) : List Char :=
  let digits := Nat.toDigits 10 value
  List.replicate (width - digits.length) '0' ++ digits

/-- `num / den` with that many decimal places. -/
def formatFixed (places num den : Nat) : String :=
  let unit := Nat.pow 10 places
  let units := roundDiv (num * unit) den
  let whole := String.ofList (Nat.toDigits 10 (units / unit))
  match places with
  | 0 => whole
  | _ =>
      whole ++ "."
        ++ String.ofList (paddedDigits places (units % unit))

end LinkOrder.Numeral
