/-
The fewest decimal digits that name one number of the 64 bit format and
no other. A number owns the interval of reals that round to it, ends
included iff its significand is even. On the grid of decimals with one
digit the neighbours of the number are tried, then on that with two, and
so on; the first grid with a hit wins, and of two hits the nearer one.
Seventeen digits always suffice.
-/
import LinkOrder.Numeral.Fixed

namespace LinkOrder.Numeral

/-- A decimal: its digits as a number, times a power of ten. -/
structure Decimal where
  digits : Nat
  exponent : Int
deriving DecidableEq, Repr, Inhabited

/-- The value as a quotient of natural numbers. -/
def Decimal.ratio (x : Decimal) : Nat × Nat :=
  match x.exponent with
  | .ofNat e => (x.digits * Nat.pow 10 e, 1)
  | .negSucc e => (x.digits, Nat.pow 10 (e + 1))

namespace Binary64

/-- The lower end of the reals that round to a number other than zero. -/
def lowerEnd (x : Binary64) : Nat × Nat :=
  if x.significand = leastNormal && leastExponent < x.exponent then
    ratio ⟨4 * x.significand - 1, x.exponent - 2⟩
  else ratio ⟨2 * x.significand - 1, x.exponent - 1⟩

/-- The upper end of the reals that round to the number. -/
def upperEnd (x : Binary64) : Nat × Nat :=
  ratio ⟨2 * x.significand + 1, x.exponent - 1⟩

/-- Whether a decimal rounds to a number other than zero. -/
def owns (x : Binary64) (decimal : Decimal) : Bool :=
  let (a, b) := decimal.ratio
  let (l, m) := x.lowerEnd
  let (u, v) := x.upperEnd
  if x.significand % 2 = 0 then l * b ≤ a * m && a * v ≤ u * b
  else l * b < a * m && a * v < u * b

/-- The power of ten at the first digit of `num / den`, searched upwards
from the power `10 ^ (-bound)`. -/
def leadingPower (num den : Nat) : (bound : Nat) → Int
  | 0 => Int.ofNat (Nat.toDigits 10 (num / den)).length - 1
  | bound + 1 =>
      if num * Nat.pow 10 bound < den then - Int.ofNat (bound + 1)
      else leadingPower num den bound

/-- The neighbours of the number among the decimals at a power of ten,
the nearer one first, of two equally near ones the even one. -/
def neighbours (x : Binary64) (power : Int) : List Decimal :=
  let (a, b) := x.ratio
  let (n, d) : Nat × Nat :=
    match power with
    | .ofNat e => (a, b * Nat.pow 10 e)
    | .negSucc e => (a * Nat.pow 10 (e + 1), b)
  let below : Decimal := ⟨n / d, power⟩
  let above : Decimal := ⟨n / d + 1, power⟩
  if roundDiv n d = n / d then [below, above] else [above, below]

/-- The first of the neighbours on grids of `count` digits and more that
rounds to the number. -/
def searchShortest (x : Binary64) (leading : Int) :
    (count more : Nat) → Decimal
  | count, 0 => (x.neighbours (leading + 1 - count)).headD ⟨0, 0⟩
  | count, more + 1 =>
      match (x.neighbours (leading + 1 - count)).find? x.owns with
      | some decimal => decimal
      | none => searchShortest x leading (count + 1) more

/-- The shortest decimal that rounds to the number. -/
def shortest (x : Binary64) : Decimal :=
  if x.significand = 0 then ⟨0, 0⟩
  else
    let (a, b) := x.ratio
    searchShortest x (leadingPower a b 324) 1 16

end Binary64

-- ============================================================== layout

/-- Digits without the zeros at their end. -/
def withoutTrailingZeros (digits : List Char) : List Char :=
  match (digits.reverse.dropWhile (· = '0')).reverse with
  | [] => ['0']
  | kept => kept

/-- The text of a decimal: positional, with at least one place, while its
first digit stands between the fifth place after the point and the
sixteenth before it; otherwise with one digit before the point and a
signed exponent. -/
def Decimal.format (x : Decimal) : String :=
  let all := Nat.toDigits 10 x.digits
  let digits := withoutTrailingZeros all
  let leading : Int := x.exponent + Int.ofNat all.length - 1
  let zeros := fun (n : Nat) => List.replicate n '0'
  let chars : List Char :=
    if 0 ≤ leading && leading ≤ 15 then
      let wholeWidth := leading.toNat + 1
      let whole := digits.take wholeWidth
      let places := digits.drop wholeWidth
      whole ++ zeros (wholeWidth - whole.length) ++ '.'
        :: (if places = [] then ['0'] else places)
    else if -5 ≤ leading && leading < 0 then
      '0' :: '.' :: zeros ((-leading).toNat - 1) ++ digits
    else
      let sign := if leading < 0 then '-' else '+'
      digits.take 1
        ++ (if digits.length = 1 then [] else '.' :: digits.drop 1)
        ++ 'e' :: sign :: Nat.toDigits 10 leading.natAbs
  String.ofList chars

end LinkOrder.Numeral
