/-
What the text of a duration says: a unit, and how many of it. Fractions
are counted too, seconds in hundredths and the seconds behind minutes in
tenths, as that is how many places are written.

A text says one thing only (`Reading.text_injective`), so whether it is in
range for its unit is a matter of the text and not of how it came about.
Every text begins with a number and goes on with something else than a
digit; where the first number ends (`digits_append_inj`), the rest tells
the units apart.
-/
import Mathlib.Data.List.TakeWhile
import LinkOrder.Duration
import LinkOrder.Proofs.Numeral.Spelling

namespace LinkOrder

-- ============================================================== digits

namespace Numeral

theorem toDigits_injective {n n' : Nat}
    (h : Nat.toDigits 10 n = Nat.toDigits 10 n') : n = n' := by
  have hvalue := Base.lawful_decimal.valueFrom?_toDigits n
  rw [show Base.decimal.size = 10 from rfl, h] at hvalue
  exact Option.some.inj
    (hvalue.symm.trans (Base.lawful_decimal.valueFrom?_toDigits n'))

theorem paddedDigits_injective {width n n' : Nat}
    (h : paddedDigits width n = paddedDigits width n') : n = n' := by
  have hvalue : ∀ m, Base.decimal.valueFrom? 0 (paddedDigits width m)
      = some m := by
    intro m
    unfold paddedDigits
    rw [Base.lawful_decimal.valueFrom?_zeros]
    exact Base.lawful_decimal.valueFrom?_toDigits m
  have hn := hvalue n
  rw [h, hvalue n'] at hn
  exact (Option.some.inj hn).symm

/-- A number in front of a text is the digits that the text starts
with. -/
theorem takeWhile_digits (n : Nat) {c : Char}
    (hc : decimalDigit? c = none) (rest : List Char) :
    (Nat.toDigits 10 n ++ c :: rest).takeWhile
        (fun c => (decimalDigit? c).isSome)
      = Nat.toDigits 10 n := by
  rw [List.takeWhile_append_of_pos fun _ => isSome_decimalDigit?_of_mem,
    List.takeWhile_cons, hc]
  exact List.append_nil _

/-- Where something that is no digit follows, a text tells where the digits
end. -/
theorem digits_append_inj {n n' : Nat} {c c' : Char}
    {rest rest' : List Char} (hc : decimalDigit? c = none)
    (hc' : decimalDigit? c' = none)
    (h : Nat.toDigits 10 n ++ c :: rest
      = Nat.toDigits 10 n' ++ c' :: rest') :
    n = n' ∧ c = c' ∧ rest = rest' := by
  have hdigits := takeWhile_digits n hc rest
  rw [h, takeWhile_digits n' hc' rest'] at hdigits
  have hn : n = n' := (toDigits_injective hdigits).symm
  rw [hn] at h
  obtain ⟨hchar, hrest⟩ := List.cons.inj (List.append_cancel_left h)
  exact ⟨hn, hchar, hrest⟩

/-- Units of a place, written with the places. -/
def withPlaces (places units : Nat) : List Char :=
  Nat.toDigits 10 (units / Nat.pow 10 places)
    ++ '.' :: paddedDigits places (units % Nat.pow 10 places)

/-- A text with the point at a known place tells the units. -/
theorem withPlaces_append_inj {places units units' : Nat}
    {rest : List Char}
    (h : withPlaces places units ++ rest = withPlaces places units' ++ rest) :
    units = units' := by
  unfold withPlaces at h
  rw [List.append_assoc, List.append_assoc] at h
  obtain ⟨hwhole, -, hplaces⟩ := digits_append_inj (by decide) (by decide) h
  have hpart := paddedDigits_injective (List.append_cancel_right hplaces)
  rw [← Nat.div_add_mod units (Nat.pow 10 places), hwhole, hpart,
    Nat.div_add_mod]

/-- To print a quotient to some places is to round it and to set the
point. -/
theorem formatFixed_eq_withPlaces (places num den : Nat) :
    formatFixed (places + 1) num den
      = String.ofList (withPlaces (places + 1)
          (roundDiv (num * Nat.pow 10 (places + 1)) den)) := by
  unfold formatFixed withPlaces
  dsimp only
  rw [String.append_assoc, ← String.toList_inj]
  simp

end Numeral

namespace Duration

open Numeral (withPlaces digits_append_inj withPlaces_append_inj)

-- ============================================================ readings

/-- What a text says of a duration. -/
inductive Reading where
  | microseconds (count : Nat)
  | milliseconds (count : Nat)
  | seconds (hundredths : Nat)
  | minutes (count tenths : Nat)
deriving DecidableEq

namespace Reading

/-- How it is written. -/
def chars : Reading → List Char
  | .microseconds count => Nat.toDigits 10 count ++ ['µ', 's']
  | .milliseconds count => Nat.toDigits 10 count ++ ['m', 's']
  | .seconds hundredths => withPlaces 2 hundredths ++ ['s']
  | .minutes count tenths =>
      Nat.toDigits 10 count ++ 'm' :: ' ' :: (withPlaces 1 tenths ++ ['s'])

def text (reading : Reading) : String :=
  String.ofList reading.chars

theorem text_microseconds (count : Nat) :
    (microseconds count).text = toString count ++ "µs" := by
  rw [text, chars, ← String.toList_inj]
  simp

theorem text_milliseconds (count : Nat) :
    (milliseconds count).text = toString count ++ "ms" := by
  rw [text, chars, ← String.toList_inj]
  simp

theorem text_seconds (num den : Nat) :
    (seconds (Numeral.roundDiv (num * 100) den)).text
      = Numeral.formatFixed 2 num den ++ "s" := by
  rw [Numeral.formatFixed_eq_withPlaces, text, chars, String.ofList_append]

theorem text_minutes (count num den : Nat) :
    (minutes count (Numeral.roundDiv (num * 10) den)).text
      = toString count ++ "m " ++ Numeral.formatFixed 1 num den ++ "s" := by
  rw [Numeral.formatFixed_eq_withPlaces, text, chars, ← String.toList_inj]
  simp

/-- Of a unit there are fewer than the next one is made of, as far as the
places tell. -/
def InRange : Reading → Prop
  | .microseconds count => count < 1000
  | .milliseconds count => count < 1000
  | .seconds hundredths => hundredths < 6000
  | .minutes _ tenths => tenths < 600

/-- The number that stands in front. -/
def front : Reading → Nat
  | .microseconds count => count
  | .milliseconds count => count
  | .seconds hundredths => hundredths / 100
  | .minutes count _ => count

/-- What follows the number. -/
def rest : Reading → Char × List Char
  | .microseconds _ => ('µ', ['s'])
  | .milliseconds _ => ('m', ['s'])
  | .seconds hundredths =>
      ('.', Numeral.paddedDigits 2 (hundredths % 100) ++ ['s'])
  | .minutes _ tenths => ('m', ' ' :: (withPlaces 1 tenths ++ ['s']))

theorem chars_eq (reading : Reading) :
    reading.chars
      = Nat.toDigits 10 reading.front
          ++ reading.rest.1 :: reading.rest.2 := by
  cases reading with
  | microseconds count => rfl
  | milliseconds count => rfl
  | seconds hundredths => exact List.append_assoc _ _ _
  | minutes count tenths => rfl

theorem decimalDigit?_rest (reading : Reading) :
    Numeral.decimalDigit? reading.rest.1 = none := by
  cases reading <;> rfl

/-- The number in front and what follows it leave no doubt. -/
theorem eq_of_front_of_rest {r r' : Reading} (hfront : r.front = r'.front)
    (hrest : r.rest = r'.rest) : r = r' := by
  cases r with
  | microseconds count =>
      cases r' with
      | microseconds count' => exact congrArg _ hfront
      | milliseconds count' => cases hrest
      | seconds hundredths' => cases hrest
      | minutes count' tenths' => cases hrest
  | milliseconds count =>
      cases r' with
      | microseconds count' => cases hrest
      | milliseconds count' => exact congrArg _ hfront
      | seconds hundredths' => cases hrest
      | minutes count' tenths' => cases hrest
  | seconds hundredths =>
      cases r' with
      | microseconds count' => cases hrest
      | milliseconds count' => cases hrest
      | seconds hundredths' =>
          -- the whole seconds stand in front, the hundredths behind the point
          have hpart := Numeral.paddedDigits_injective
            (List.append_cancel_right (Prod.mk.inj hrest).2)
          have hwhole : hundredths / 100 = hundredths' / 100 := hfront
          exact congrArg _ (by omega)
      | minutes count' tenths' => cases hrest
  | minutes count tenths =>
      cases r' with
      | microseconds count' => cases hrest
      | milliseconds count' => cases hrest
      | seconds hundredths' => cases hrest
      | minutes count' tenths' =>
          have htenths := withPlaces_append_inj
            (List.cons.inj (Prod.mk.inj hrest).2).2
          rw [show count = count' from hfront, htenths]

/-- A text says one thing only. -/
theorem text_injective : Function.Injective text := by
  intro r r' h
  have hchars : r.chars = r'.chars := String.ofList_injective h
  rw [chars_eq, chars_eq] at hchars
  obtain ⟨hfront, hchar, hrest⟩ := digits_append_inj
    (decimalDigit?_rest r) (decimalDigit?_rest r') hchars
  exact eq_of_front_of_rest hfront (Prod.ext hchar hrest)

end Reading

end Duration

end LinkOrder
