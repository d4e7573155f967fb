/-
Durations as people read them: microseconds, milliseconds, seconds with
two places, or minutes and seconds with one. The unit is chosen, and the
places are rounded, on the duration as a floating point number of
seconds; the whole counts of the small units are exact.
-/
import LinkOrder.Numeral.Fixed

namespace LinkOrder

open Numeral (Binary64 formatFixed)

/-- A span of time: whole seconds, and nanoseconds below a second. -/
structure Duration where
  seconds : Nat
  nanoseconds : Nat
deriving DecidableEq, Repr, Inhabited

namespace Duration

/-- The span of that many nanoseconds. -/
def ofNanoseconds (n : Nat) : Duration :=
  ⟨n / 1_000_000_000, n % 1_000_000_000⟩

/-- A quotient as a floating point number; those of a duration are all
finite. -/
def nearest (num den : Nat) : Binary64 :=
  (Binary64.ofRatio? num den).getD .zero

/-- The seconds as a floating point number. -/
def inSeconds (d : Duration) : Binary64 :=
  let fraction :=
    ((nearest d.nanoseconds 1).div? (nearest 1_000_000_000 1)).getD .zero
  ((nearest d.seconds 1).add? fraction).getD .zero

/-- The whole microseconds. -/
def microseconds (d : Duration) : Nat :=
  d.seconds * 1_000_000 + d.nanoseconds / 1_000

/-- The whole milliseconds. -/
def milliseconds (d : Duration) : Nat :=
  d.seconds * 1_000 + d.nanoseconds / 1_000_000

/-- The whole minutes of a number of seconds, from a quotient that is
rounded to a number again. -/
def wholeMinutes (total : Binary64) : Nat :=
  let quotient := ((total.div? (nearest 60 1)).getD .zero).ratio
  quotient.1 / quotient.2

/-- How the duration is written. -/
def format (d : Duration) : String :=
  let total := d.inSeconds
  let seconds := total.ratio
  if total.lt (nearest 1 1000) then toString d.microseconds ++ "µs"
  else if total.lt (nearest 1 1) then toString d.milliseconds ++ "ms"
  else if total.lt (nearest 60 1) then
    formatFixed 2 seconds.1 seconds.2 ++ "s"
  else
    toString (wholeMinutes total) ++ "m "
      ++ formatFixed 1 (seconds.1 % (60 * seconds.2)) seconds.2 ++ "s"

/-- The milliseconds with two places, as timers report them. -/
def formatMilliseconds (d : Duration) : String :=
  let (num, den) :=
    ((d.inSeconds.mul? (nearest 1000 1)).getD .zero).ratio
  formatFixed 2 num den ++ "ms"

end Duration

end LinkOrder
