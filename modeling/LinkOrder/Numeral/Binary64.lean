/-
Non-negative numbers of the 64 bit binary floating point format, as exact
rationals. A number is a significand below 2^53 on a power of two; a
quotient is rounded to the nearest number, ties going to the even
significand. Everything is natural number arithmetic, so what is computed
here can be reasoned about as well as run.
-/

namespace LinkOrder.Numeral

/-- The quotient rounded to the nearest whole number, ties to even. -/
def roundDiv (num den : Nat) : Nat :=
  let quotient := num / den
  let twice := 2 * (num % den)
  if den < twice || (den = twice && quotient % 2 = 1) then quotient + 1
  else quotient

/-- A non-negative finite number: a significand times a power of two. -/
structure Binary64 where
  significand : Nat
  exponent : Int
deriving DecidableEq, Repr, Inhabited

namespace Binary64

/-- The bound below which significands lie. -/
def significandLimit : Nat := 0x20_0000_0000_0000

/-- The least significand that uses all of its 53 bits. -/
def leastNormal : Nat := 0x10_0000_0000_0000

/-- The exponent below which no significand reaches. -/
def leastExponent : Int := -1074

/-- The greatest exponent of a finite number. -/
def greatestExponent : Int := 971

def zero : Binary64 := ⟨0, leastExponent⟩

/-- The quotient of `num / den` by `2 ^ exponent`, as a quotient again. -/
def scaled (num den : Nat) (exponent : Int) : Nat × Nat :=
  match exponent with
  | .ofNat e => (num, den * Nat.pow 2 e)
  | .negSucc e => (num * Nat.pow 2 (e + 1), den)

/-- The exponent at which the significand of `num / den` has 53 bits, or
the least one. -/
def exponentFor (num den : Nat) : Int :=
  let low := max (Int.ofNat num.log2 - Int.ofNat den.log2 - 53) leastExponent
  let (n, d) := scaled num den low
  if significandLimit ≤ n / d then low + 1 else low

/-- The number nearest to `num / den`, or none if that lies beyond the
finite ones. -/
def ofRatio? (num den : Nat) : Option Binary64 :=
  if num = 0 then some zero
  else
    let exponent := exponentFor num den
    let (n, d) := scaled num den exponent
    let significand := roundDiv n d
    let rounded : Binary64 :=
      if significand = significandLimit then ⟨leastNormal, exponent + 1⟩
      else ⟨significand, exponent⟩
    if greatestExponent < rounded.exponent then none else some rounded

/-- The value as a quotient of natural numbers. -/
def ratio (x : Binary64) : Nat × Nat :=
  match x.exponent with
  | .ofNat e => (x.significand * Nat.pow 2 e, 1)
  | .negSucc e => (x.significand, Nat.pow 2 (e + 1))

/-- The sum, rounded. -/
def add? (x y : Binary64) : Option Binary64 :=
  let (a, b) := x.ratio
  let (c, d) := y.ratio
  ofRatio? (a * d + c * b) (b * d)

/-- The product, rounded. -/
def mul? (x y : Binary64) : Option Binary64 :=
  let (a, b) := x.ratio
  let (c, d) := y.ratio
  ofRatio? (a * c) (b * d)

/-- The quotient by a number other than zero, rounded. -/
def div? (x y : Binary64) : Option Binary64 :=
  let (a, b) := x.ratio
  let (c, d) := y.ratio
  ofRatio? (a * d) (b * c)

/-- Whether the value lies below the other. -/
def lt (x y : Binary64) : Bool :=
  let (a, b) := x.ratio
  let (c, d) := y.ratio
  a * d < c * b

end Binary64

end LinkOrder.Numeral
