/-
Quotients as floating point numbers. Up to the greatest there is always a
number (`ofRatio?_rounded`), and no other is nearer (`Rounded.abs_sub_le`).
Rounding keeps the order of the quotients (`Rounded.mono`), and every
quotient that is a floating point number to begin with
(`Rounded.value_eq`).

A quotient has one exponent at which it is rounded (`Fits`): the least of
all, or the one that gives its significand 53 bits. There it is rounded to
a whole significand, ties to even (`IsNearestEven`), and both steps are
monotone. A greater exponent starts where the lesser ones end, so rounding
up never passes what a greater quotient is rounded to. Values are
rationals; that a sum, a quotient or a comparison is one of values
(`add?_rounded`, `div?_rounded`, `lt_iff`) leaves no quotient of natural
numbers to the modules above.
-/
import Mathlib.Algebra.Order.Field.Power
import Mathlib.Algebra.Order.Field.Rat
import Mathlib.Tactic.FieldSimp
import Mathlib.Tactic.Linarith
import Mathlib.Tactic.Positivity
import LinkOrder.Numeral.Binary64

namespace LinkOrder.Numeral

-- ======================================================= whole numbers

/-- The whole number nearest to a rational, the even one of two. It is
given by the whole numbers up to it. -/
def IsNearestEven (q : ℚ) (n : Nat) : Prop :=
  ∀ k : Nat, k ≤ n ↔ (k : ℚ) < q + 1 / 2 ∨ ((k : ℚ) = q + 1 / 2 ∧ k % 2 = 0)

namespace IsNearestEven

variable {q q' : ℚ} {n n' : Nat}

/-- Rounding keeps the order. -/
theorem mono (h : IsNearestEven q n) (h' : IsNearestEven q' n')
    (hle : q ≤ q') : n ≤ n' := by
  rw [h' n]
  rcases (h n).1 (Nat.le_refl n) with hbelow | ⟨htie, heven⟩
  · exact .inl (by linarith)
  · by_cases heq : q = q'
    · exact .inr ⟨by rw [htie, heq], heven⟩
    · have hlt : q < q' := lt_of_le_of_ne hle heq
      exact .inl (by linarith)

/-- A whole number is its own rounding. -/
theorem natCast (n : Nat) : IsNearestEven (n : ℚ) n := by
  intro k
  constructor
  · intro hle
    have hcast : (k : ℚ) ≤ n := by exact_mod_cast hle
    exact .inl (by linarith)
  · intro h
    by_contra hnot
    have hcast : (n : ℚ) + 1 ≤ k := by exact_mod_cast Nat.lt_of_not_le hnot
    rcases h with hbelow | ⟨htie, -⟩ <;> linarith

/-- No whole number is nearer. -/
theorem abs_sub_le (h : IsNearestEven q n) (k : Nat) :
    |q - n| ≤ |q - k| := by
  have hhigh : (n : ℚ) ≤ q + 1 / 2 := by
    rcases (h n).1 (Nat.le_refl n) with hbelow | ⟨htie, -⟩
    · exact hbelow.le
    · exact htie.le
  have hlow : q + 1 / 2 ≤ n + 1 := by
    have hnext := mt (h (n + 1)).2 (Nat.not_succ_le_self n)
    rw [not_or, not_lt] at hnext
    exact_mod_cast hnext.1
  have hhalf : |q - n| ≤ 1 / 2 := abs_le.2 ⟨by linarith, by linarith⟩
  rcases Nat.lt_trichotomy k n with hk | hk | hk
  · have hcast : (k : ℚ) + 1 ≤ n := by exact_mod_cast hk
    exact hhalf.trans (le_abs.2 (.inl (by linarith)))
  · rw [hk]
  · have hcast : (n : ℚ) + 1 ≤ k := by exact_mod_cast hk
    exact hhalf.trans (le_abs.2 (.inr (by linarith)))

end IsNearestEven

/-- What is left of the division decides, against half the divisor. -/
theorem roundDiv_isNearestEven (num : Nat) {den : Nat} (hden : 0 < den) :
    IsNearestEven (num / den) (roundDiv num den) := by
  have hdenq : (0 : ℚ) < den := by exact_mod_cast hden
  intro k
  -- without quotients: k is compared with the numerator and half a unit
  have hlt : (k : ℚ) < num / den + 1 / 2 ↔ 2 * (k * den) < 2 * num + den := by
    rw [← sub_lt_iff_lt_add, lt_div_iff₀ hdenq]
    constructor
    · intro h
      have : 2 * ((k : ℚ) * den) < 2 * num + den := by linarith
      exact_mod_cast this
    · intro h
      have : 2 * ((k : ℚ) * den) < 2 * num + den := by exact_mod_cast h
      linarith
  have heq : (k : ℚ) = num / den + 1 / 2 ↔ 2 * (k * den) = 2 * num + den := by
    rw [← sub_eq_iff_eq_add, eq_div_iff hdenq.ne']
    constructor
    · intro h
      have : 2 * ((k : ℚ) * den) = 2 * num + den := by linarith
      exact_mod_cast this
    · intro h
      have : 2 * ((k : ℚ) * den) = 2 * num + den := by exact_mod_cast h
      linarith
  have hnum : num = num / den * den + num % den := by
    rw [Nat.mul_comm, Nat.div_add_mod]
  have hmod : num % den < den := Nat.mod_lt num hden
  rw [hlt, heq]
  unfold roundDiv
  generalize num / den = quotient at hnum ⊢
  generalize num % den = rest at hnum hmod ⊢
  -- up to the quotient, the next one, or beyond both
  rcases Nat.lt_trichotomy k (quotient + 1) with hk | hk | hk
  · have hmul : k * den ≤ quotient * den :=
      Nat.mul_le_mul_right den (Nat.le_of_lt_succ hk)
    constructor
    · intro _
      exact .inl (by omega)
    · intro _
      dsimp only
      split <;> omega
  · have hmul : k * den = quotient * den + den := by
      rw [hk, Nat.succ_mul]
    simp only [Bool.or_eq_true, Bool.and_eq_true, decide_eq_true_eq]
    split <;> omega
  · have hmul : (quotient + 2) * den ≤ k * den :=
      Nat.mul_le_mul_right den hk
    rw [Nat.add_mul] at hmul
    dsimp only
    constructor
    · intro hle
      split at hle <;> omega
    · rintro (hbelow | ⟨htie, -⟩) <;> omega

-- ============================================================ exponents

/-- The exponent at which a quotient is rounded: it is the least one, or
leaves the significand no less than 53 bits, and it leaves it no more. -/
structure Fits (q : ℚ) (e : Int) : Prop where
  least : Binary64.leastExponent ≤ e
  lt : q < 2 ^ (53 + e)
  normal : e = Binary64.leastExponent ∨ (2 : ℚ) ^ (52 + e) ≤ q

theorem two_zpow_le {a b : Int} (h : a ≤ b) : (2 : ℚ) ^ a ≤ 2 ^ b :=
  zpow_le_zpow_right₀ one_le_two h

theorem two_zpow_pos (a : Int) : (0 : ℚ) < 2 ^ a :=
  zpow_pos two_pos a

theorem lt_of_two_zpow_lt {a b : Int} (h : (2 : ℚ) ^ a < 2 ^ b) : a < b :=
  (zpow_lt_zpow_iff_right₀ one_lt_two).1 h

/-- A lesser quotient does not have a greater exponent. -/
theorem Fits.mono {q q' : ℚ} {e e' : Int} (h : Fits q e)
    (h' : Fits q' e') (hle : q ≤ q') : e ≤ e' := by
  rcases h.normal with hleast | hnormal
  · rw [hleast]
    exact h'.least
  · have hlt : 52 + e < 53 + e' :=
      lt_of_two_zpow_lt (lt_of_le_of_lt (hnormal.trans hle) h'.lt)
    omega

namespace Binary64

/-- The number as a rational. -/
def value (x : Binary64) : ℚ :=
  x.significand * 2 ^ x.exponent

/-- The numbers that the format holds. -/
structure InFormat (x : Binary64) : Prop where
  significand_lt : x.significand < significandLimit
  least_le : leastExponent ≤ x.exponent
  le_greatest : x.exponent ≤ greatestExponent

/-- The greatest of them. -/
def greatest : Binary64 := ⟨significandLimit - 1, greatestExponent⟩

theorem value_nonneg (x : Binary64) : 0 ≤ x.value :=
  mul_nonneg (Nat.cast_nonneg _) (two_zpow_pos _).le

theorem ratio_snd_pos (x : Binary64) : 0 < x.ratio.2 := by
  unfold ratio
  split
  · exact Nat.zero_lt_one
  · exact Nat.two_pow_pos _

theorem ratio_eq_value (x : Binary64) :
    (x.ratio.1 : ℚ) / x.ratio.2 = x.value := by
  unfold ratio value
  split
  · next e he =>
      rw [he]
      simp
  · next e he =>
      rw [he]
      simp [zpow_negSucc, div_eq_mul_inv]

/-- Numbers are compared by their values, whatever their exponents. -/
theorem lt_iff (x y : Binary64) : x.lt y = true ↔ x.value < y.value := by
  have hx : (0 : ℚ) < x.ratio.2 := by exact_mod_cast x.ratio_snd_pos
  have hy : (0 : ℚ) < y.ratio.2 := by exact_mod_cast y.ratio_snd_pos
  rw [← ratio_eq_value, ← ratio_eq_value, div_lt_div_iff₀ hx hy]
  simp only [lt, decide_eq_true_eq]
  exact_mod_cast Iff.rfl

theorem scaled_snd_pos (num : Nat) {den : Nat} (hden : 0 < den)
    (e : Int) : 0 < (scaled num den e).2 := by
  unfold scaled
  split
  · exact Nat.mul_pos hden (Nat.two_pow_pos _)
  · exact hden

/-- It takes a power of two to the numerator or to the denominator, as the
sign of the exponent has it. -/
theorem scaled_eq_div (num den : Nat) (e : Int) :
    ((scaled num den e).1 : ℚ) / (scaled num den e).2
      = num / den / 2 ^ e := by
  unfold scaled
  split
  · simp [div_div]
  · simp [zpow_negSucc, div_eq_mul_inv, mul_right_comm]

/-- The quotient lies below twice the power that the lengths of both
numbers say, and above half of it. -/
theorem log2_bounds {num den : Nat} (hnum : num ≠ 0) (hden : 0 < den) :
    (2 : ℚ) ^ ((num.log2 : Int) - den.log2 - 1) < num / den
      ∧ (num : ℚ) / den < 2 ^ ((num.log2 : Int) - den.log2 + 1) := by
  have hdenq : (0 : ℚ) < den := by exact_mod_cast hden
  have hnumLow : (2 : ℚ) ^ (num.log2 : Int) ≤ num := by
    exact_mod_cast Nat.log2_self_le hnum
  have hnumHigh : (num : ℚ) < 2 ^ ((num.log2 : Int) + 1) := by
    exact_mod_cast Nat.lt_log2_self
  have hdenLow : (2 : ℚ) ^ (den.log2 : Int) ≤ den := by
    exact_mod_cast Nat.log2_self_le (Nat.ne_of_gt hden)
  have hdenHigh : (den : ℚ) < 2 ^ ((den.log2 : Int) + 1) := by
    exact_mod_cast Nat.lt_log2_self
  constructor
  · rw [lt_div_iff₀ hdenq]
    calc (2 : ℚ) ^ ((num.log2 : Int) - den.log2 - 1) * den
        < 2 ^ ((num.log2 : Int) - den.log2 - 1)
            * 2 ^ ((den.log2 : Int) + 1) :=
          mul_lt_mul_of_pos_left hdenHigh (two_zpow_pos _)
      _ = 2 ^ (num.log2 : Int) := by
          rw [← zpow_add₀ two_ne_zero]
          congr 1
          omega
      _ ≤ num := hnumLow
  · rw [div_lt_iff₀ hdenq]
    calc (num : ℚ) < 2 ^ ((num.log2 : Int) + 1) := hnumHigh
      _ = 2 ^ ((num.log2 : Int) - den.log2 + 1)
            * 2 ^ (den.log2 : Int) := by
          rw [← zpow_add₀ two_ne_zero]
          congr 1
          omega
      _ ≤ 2 ^ ((num.log2 : Int) - den.log2 + 1) * den :=
          mul_le_mul_of_nonneg_left hdenLow (two_zpow_pos _).le

/-- The quotient by a power of two lies below another one just if its
whole part does. -/
theorem scaled_div_lt_iff {num den : Nat} (hden : 0 < den) (e : Int)
    (bits : Nat) :
    (scaled num den e).1 / (scaled num den e).2 < 2 ^ bits
      ↔ (num : ℚ) / den < 2 ^ (bits + e) := by
  have hpos := scaled_snd_pos num hden e
  have hposq : (0 : ℚ) < (scaled num den e).2 := by exact_mod_cast hpos
  rw [Nat.div_lt_iff_lt_mul hpos, zpow_add₀ two_ne_zero,
    ← div_lt_iff₀ (two_zpow_pos e), ← scaled_eq_div,
    div_lt_iff₀ hposq]
  exact_mod_cast Iff.rfl

/-- The lengths in bits leave two exponents to choose from, and the
quotient at the lower one decides. -/
theorem exponentFor_fits {num den : Nat} (hnum : num ≠ 0)
    (hden : 0 < den) :
    Fits ((num : ℚ) / den) (exponentFor num den) := by
  obtain ⟨hlow, hhigh⟩ := log2_bounds hnum hden
  have hlimit : significandLimit = 2 ^ 53 := by decide
  unfold exponentFor
  simp only [Int.ofNat_eq_natCast]
  generalize hstart :
    max ((num.log2 : Int) - den.log2 - 53) leastExponent = start
  have hleast : leastExponent ≤ start := by
    rw [← hstart]
    exact le_max_right _ _
  have hbelow : (num : ℚ) / den < 2 ^ (53 + (start + 1)) :=
    lt_of_lt_of_le hhigh (two_zpow_le (by omega))
  rw [hlimit]
  split
  · next hlong =>
      have hnormal : ¬ (num : ℚ) / den < 2 ^ ((53 : Nat) + start) := by
        rw [← scaled_div_lt_iff hden]
        exact Nat.not_lt_of_le hlong
      refine ⟨by omega, hbelow, .inr ?_⟩
      have hexp : 52 + (start + 1) = (53 : Nat) + start := by omega
      rw [hexp]
      exact not_lt.1 hnormal
  · next hshort =>
      refine ⟨hleast, ?_, ?_⟩
      · exact (scaled_div_lt_iff hden start 53).1 (Nat.lt_of_not_le hshort)
      · -- the start is the least exponent, or the lengths say its bits
        by_cases h : start = leastExponent
        · exact .inl h
        · refine .inr (le_trans (two_zpow_le ?_) hlow.le)
          omega

-- ============================================================ rounding

/-- The number is the quotient rounded: at the exponent of the quotient, to
the nearest significand, the even one of two. -/
def Rounded (q : ℚ) (x : Binary64) : Prop :=
  ∃ (e : Int) (n : Nat),
    Fits q e ∧ IsNearestEven (q / 2 ^ e) n ∧ x.value = n * 2 ^ e

/-- A quotient may round up to the next power of two, but not past it. -/
theorem significand_le {q : ℚ} {e : Int} {n : Nat} (hfits : Fits q e)
    (hn : IsNearestEven (q / 2 ^ e) n) : n ≤ 2 ^ 53 := by
  refine hn.mono (IsNearestEven.natCast _) ?_
  rw [div_le_iff₀ (two_zpow_pos e)]
  have hlt := hfits.lt
  rw [zpow_add₀ two_ne_zero] at hlt
  exact_mod_cast hlt.le

theorem le_significand {q : ℚ} {e : Int} {n : Nat}
    (hq : (2 : ℚ) ^ (52 + e) ≤ q)
    (hn : IsNearestEven (q / 2 ^ e) n) : 2 ^ 52 ≤ n := by
  refine (IsNearestEven.natCast _).mono hn ?_
  rw [le_div_iff₀ (two_zpow_pos e)]
  rw [zpow_add₀ two_ne_zero] at hq
  exact_mod_cast hq

theorem InFormat.value_lt {y : Binary64} (h : y.InFormat) :
    y.value < 2 ^ (53 + y.exponent) := by
  have hsignificand : (y.significand : ℚ) < 2 ^ (53 : Int) := by
    exact_mod_cast h.significand_lt
  rw [value, zpow_add₀ two_ne_zero]
  exact mul_lt_mul_of_pos_right hsignificand (two_zpow_pos _)

/-- A number is whole at every exponent up to its own. -/
theorem exists_value_eq_of_le {y : Binary64} {e : Int}
    (h : e ≤ y.exponent) : ∃ m : Nat, y.value = m * 2 ^ e := by
  obtain ⟨j, hj⟩ := Int.eq_ofNat_of_zero_le (Int.sub_nonneg_of_le h)
  refine ⟨y.significand * 2 ^ j, ?_⟩
  rw [value, show y.exponent = j + e by omega, zpow_add₀ two_ne_zero,
    ← mul_assoc]
  norm_cast

/-- No number of the format is above the greatest. -/
theorem InFormat.value_le_greatest {y : Binary64} (h : y.InFormat) :
    y.value ≤ greatest.value := by
  have hsignificand : y.significand ≤ greatest.significand :=
    Nat.le_pred_of_lt h.significand_lt
  exact mul_le_mul (by exact_mod_cast hsignificand)
    (two_zpow_le h.le_greatest) (two_zpow_pos _).le (Nat.cast_nonneg _)

theorem greatest_value_lt : greatest.value < 2 ^ (1024 : Int) :=
  InFormat.value_lt (y := greatest) ⟨by decide, by decide, by decide⟩

/-- What does not exceed the greatest number does not need a greater
exponent. -/
theorem exponent_le {q : ℚ} {e : Int} (hfits : Fits q e)
    (hrange : q ≤ greatest.value) : e ≤ greatestExponent := by
  rcases hfits.normal with hleast | hnormal
  · rw [hleast]
    decide
  · have hlt := lt_of_two_zpow_lt
      (lt_of_le_of_lt (hnormal.trans hrange) greatest_value_lt)
    simp only [greatestExponent]
    omega

/-- Nor is it rounded up to one. -/
theorem exponent_lt_of_carry {q : ℚ} {e : Int} {n : Nat}
    (hfits : Fits q e) (hn : IsNearestEven (q / 2 ^ e) n)
    (hcarry : n = significandLimit) (hrange : q ≤ greatest.value) :
    e < greatestExponent := by
  refine lt_of_le_of_ne (exponent_le hfits hrange) ?_
  rintro rfl
  have hle : n ≤ significandLimit - 1 := by
    refine hn.mono (IsNearestEven.natCast _) ?_
    rw [div_le_iff₀ (two_zpow_pos _)]
    exact hrange
  rw [hcarry] at hle
  exact absurd hle (by decide)

/-- Of a quotient up to the greatest number there is always a number, and
it is the quotient rounded. -/
theorem ofRatio?_rounded (num : Nat) {den : Nat} (hden : 0 < den)
    (hrange : (num : ℚ) / den ≤ greatest.value) :
    ∃ x, ofRatio? num den = some x ∧ Rounded ((num : ℚ) / den) x := by
  by_cases hnum : num = 0
  · refine ⟨zero, by rw [ofRatio?, if_pos hnum],
      leastExponent, 0, ⟨le_refl _, ?_, .inl rfl⟩, ?_, ?_⟩
    · rw [hnum, Nat.cast_zero, zero_div]
      exact two_zpow_pos _
    · rw [hnum, Nat.cast_zero, zero_div, zero_div]
      exact_mod_cast IsNearestEven.natCast 0
    · simp [value, zero]
  · have hfits := exponentFor_fits hnum hden
    have hnearest := roundDiv_isNearestEven
      (scaled num den (exponentFor num den)).1
      (scaled_snd_pos num hden (exponentFor num den))
    rw [scaled_eq_div] at hnearest
    unfold ofRatio?
    rw [if_neg hnum]
    generalize exponentFor num den = e at hfits hnearest ⊢
    dsimp only
    generalize roundDiv (scaled num den e).1 (scaled num den e).2 = n
      at hnearest ⊢
    -- rounding up to a power of two moves to the next exponent
    by_cases hcarry : n = significandLimit
    · have hfinite := exponent_lt_of_carry hfits hnearest hcarry hrange
      have hnext : e + 1 ≤ greatestExponent := hfinite
      rw [if_pos hcarry, if_neg (not_lt.2 hnext)]
      refine ⟨_, rfl, e, n, hfits, hnearest, ?_⟩
      have hlimit : (n : ℚ) = leastNormal * 2 := by
        rw [hcarry]
        norm_num [significandLimit, leastNormal]
      rw [value, hlimit, zpow_add_one₀ two_ne_zero, mul_assoc,
        mul_comm ((2 : ℚ) ^ e)]
    · have hfinite := exponent_le hfits hrange
      rw [if_neg hcarry, if_neg (not_lt.2 hfinite)]
      exact ⟨_, rfl, e, n, hfits, hnearest, rfl⟩

theorem InFormat.exists_rounded {y : Binary64} (h : y.InFormat) :
    ∃ z, Rounded y.value z := by
  have hrange := h.value_le_greatest
  rw [← ratio_eq_value] at hrange ⊢
  obtain ⟨z, -, hz⟩ := ofRatio?_rounded _ y.ratio_snd_pos hrange
  exact ⟨z, hz⟩

namespace Rounded

variable {q q' : ℚ} {x x' y : Binary64}

/-- Rounding keeps the order. -/
theorem mono (h : Rounded q x) (h' : Rounded q' x') (hle : q ≤ q') :
    x.value ≤ x'.value := by
  obtain ⟨e, n, hfits, hn, hx⟩ := h
  obtain ⟨e', n', hfits', hn', hx'⟩ := h'
  rw [hx, hx']
  rcases lt_or_eq_of_le (hfits.mono hfits' hle) with hexp | hexp
  · -- what the lesser exponent reaches is where the greater one starts
    have hnormal : (2 : ℚ) ^ (52 + e') ≤ q' := by
      rcases hfits'.normal with hleast | hnormal
      · have := hfits.least
        omega
      · exact hnormal
    have hn53 : (n : ℚ) ≤ 2 ^ (53 : Int) := by
      exact_mod_cast significand_le hfits hn
    have hn52 : (2 : ℚ) ^ (52 : Int) ≤ n' := by
      exact_mod_cast le_significand hnormal hn'
    calc (n : ℚ) * 2 ^ e ≤ 2 ^ (53 : Int) * 2 ^ e :=
          mul_le_mul_of_nonneg_right hn53 (two_zpow_pos e).le
      _ = 2 ^ (53 + e) := by rw [zpow_add₀ two_ne_zero]
      _ ≤ 2 ^ (52 + e') := two_zpow_le (by omega)
      _ = 2 ^ (52 : Int) * 2 ^ e' := by rw [zpow_add₀ two_ne_zero]
      _ ≤ n' * 2 ^ e' :=
          mul_le_mul_of_nonneg_right hn52 (two_zpow_pos e').le
  · subst hexp
    have hsignificand : n ≤ n' :=
      hn.mono hn' (div_le_div_of_nonneg_right hle (two_zpow_pos e).le)
    exact mul_le_mul_of_nonneg_right (by exact_mod_cast hsignificand)
      (two_zpow_pos e).le

/-- A number of the format is its own rounding. -/
theorem value_eq (h : Rounded y.value x) (hy : y.InFormat) :
    x.value = y.value := by
  obtain ⟨e, n, hfits, hn, hx⟩ := h
  have hexp : e ≤ y.exponent := by
    rcases hfits.normal with hleast | hnormal
    · rw [hleast]
      exact hy.least_le
    · have := lt_of_two_zpow_lt (lt_of_le_of_lt hnormal hy.value_lt)
      omega
  -- at that exponent the number is whole, and so not rounded at all
  obtain ⟨m, hm⟩ := exists_value_eq_of_le hexp
  rw [hm, mul_div_cancel_right₀ _ (two_zpow_pos e).ne'] at hn
  have hsignificand : n = m :=
    Nat.le_antisymm (hn.mono (IsNearestEven.natCast _) (le_refl _))
      ((IsNearestEven.natCast _).mono hn (le_refl _))
  rw [hx, hm, hsignificand]

/-- Nothing is rounded down past a number of the format. -/
theorem le_value (h : Rounded q x) (hy : y.InFormat) (hle : y.value ≤ q) :
    y.value ≤ x.value := by
  obtain ⟨z, hz⟩ := hy.exists_rounded
  rw [← hz.value_eq hy]
  exact hz.mono h hle

/-- Nothing is rounded up past a number of the format. -/
theorem value_le (h : Rounded q x) (hy : y.InFormat) (hle : q ≤ y.value) :
    x.value ≤ y.value := by
  obtain ⟨z, hz⟩ := hy.exists_rounded
  rw [← hz.value_eq hy]
  exact h.mono hz hle

/-- No number of the format is nearer than the one that the quotient is
rounded to. -/
theorem abs_sub_le (h : Rounded q x) (hy : y.InFormat) :
    |q - x.value| ≤ |q - y.value| := by
  obtain ⟨e, n, hfits, hn, hx⟩ := h
  have hpow := two_zpow_pos e
  have hq : q = q / 2 ^ e * 2 ^ e := (div_mul_cancel₀ q hpow.ne').symm
  have hwhole : ∀ k : Nat, |q - x.value| ≤ |q - k * 2 ^ e| := by
    intro k
    rw [hx, hq, ← sub_mul, ← sub_mul, abs_mul, abs_mul]
    exact mul_le_mul_of_nonneg_right (hn.abs_sub_le k) (abs_nonneg _)
  by_cases hle : e ≤ y.exponent
  · obtain ⟨m, hm⟩ := exists_value_eq_of_le hle
    rw [hm]
    exact hwhole m
  · -- a finer number lies below the numbers of 53 bits at the exponent
    have hnormal : (2 : ℚ) ^ (52 + e) ≤ q := by
      rcases hfits.normal with hleast | hnormal
      · have := hy.least_le
        omega
      · exact hnormal
    have hfiner : y.value < 2 ^ (52 + e) :=
      lt_of_lt_of_le hy.value_lt (two_zpow_le (by omega))
    have hleast := hwhole (2 ^ 52)
    have hcast : ((2 ^ 52 : Nat) : ℚ) * 2 ^ e = 2 ^ (52 + e) := by
      rw [zpow_add₀ two_ne_zero]
      norm_cast
    rw [hcast, abs_of_nonneg (by linarith : 0 ≤ q - 2 ^ (52 + e))] at hleast
    rw [abs_of_nonneg (by linarith : 0 ≤ q - y.value)]
    linarith

/-- Numbers that fill 53 bits are whole. -/
theorem exists_value_eq_natCast (h : Rounded q x)
    (hq : (significandLimit : ℚ) ≤ q) : ∃ m : Nat, x.value = m := by
  obtain ⟨e, n, hfits, -, hx⟩ := h
  have hlimit : (2 : ℚ) ^ (53 : Int) ≤ q := by
    refine le_trans (le_of_eq ?_) hq
    norm_num [significandLimit]
  have hpos := lt_of_two_zpow_lt (lt_of_le_of_lt hlimit hfits.lt)
  obtain ⟨j, rfl⟩ := Int.eq_ofNat_of_zero_le (show 0 ≤ e by omega)
  refine ⟨n * 2 ^ j, ?_⟩
  rw [hx]
  norm_cast

end Rounded

-- ======================================================= whole numbers

/-- Whole numbers of 53 bits are in the format, and so is the next one. -/
theorem exists_inFormat {m : Nat} (hm : m ≤ significandLimit) :
    ∃ y : Binary64, y.InFormat ∧ y.value = m := by
  by_cases hlimit : m = significandLimit
  · refine ⟨⟨leastNormal, 1⟩, ⟨by decide, by decide, by decide⟩, ?_⟩
    rw [hlimit]
    norm_num [value, significandLimit, leastNormal]
  · have hlt : m < significandLimit := Nat.lt_of_le_of_ne hm hlimit
    have hleast : leastExponent ≤ 0 := by decide
    have hgreatest : 0 ≤ greatestExponent := by decide
    refine ⟨⟨m, 0⟩, ⟨hlt, hleast, hgreatest⟩, ?_⟩
    rw [value, zpow_zero, mul_one]

namespace Rounded

variable {q : ℚ} {x : Binary64} {m : Nat}

/-- Rounding does not cross an integer that the format holds. -/
theorem natCast_le_value (h : Rounded q x) (hm : m ≤ significandLimit)
    (hle : (m : ℚ) ≤ q) : (m : ℚ) ≤ x.value := by
  obtain ⟨y, hy, hvalue⟩ := exists_inFormat hm
  rw [← hvalue] at hle ⊢
  exact h.le_value hy hle

theorem value_le_natCast (h : Rounded q x) (hm : m ≤ significandLimit)
    (hle : q ≤ (m : ℚ)) : x.value ≤ m := by
  obtain ⟨y, hy, hvalue⟩ := exists_inFormat hm
  rw [← hvalue] at hle ⊢
  exact h.value_le hy hle

/-- An integer that the format holds is left as it is. -/
theorem value_eq_natCast (h : Rounded m x) (hm : m ≤ significandLimit) :
    x.value = m :=
  le_antisymm (h.value_le_natCast hm (le_refl _))
    (h.natCast_le_value hm (le_refl _))

end Rounded

-- ========================================================== arithmetic

/-- A sum is the exact one, rounded once. -/
theorem add?_rounded (x y : Binary64)
    (hrange : x.value + y.value ≤ greatest.value) :
    ∃ z, x.add? y = some z ∧ Rounded (x.value + y.value) z := by
  have hx : (x.ratio.2 : ℚ) ≠ 0 := by exact_mod_cast x.ratio_snd_pos.ne'
  have hy : (y.ratio.2 : ℚ) ≠ 0 := by exact_mod_cast y.ratio_snd_pos.ne'
  have hsum : ((x.ratio.1 * y.ratio.2 + y.ratio.1 * x.ratio.2 : Nat) : ℚ)
      / (x.ratio.2 * y.ratio.2 : Nat) = x.value + y.value := by
    rw [← ratio_eq_value, ← ratio_eq_value, div_add_div _ _ hx hy]
    push_cast
    rw [mul_comm (x.ratio.2 : ℚ) y.ratio.1]
  rw [← hsum] at hrange ⊢
  exact ofRatio?_rounded _ (Nat.mul_pos x.ratio_snd_pos y.ratio_snd_pos)
    hrange

/-- A quotient is the exact one, rounded once. -/
theorem div?_rounded (x y : Binary64) (hy : 0 < y.value)
    (hrange : x.value / y.value ≤ greatest.value) :
    ∃ z, x.div? y = some z ∧ Rounded (x.value / y.value) z := by
  have hpos : 0 < y.ratio.1 := by
    by_contra hnot
    rw [← ratio_eq_value, Nat.eq_zero_of_not_pos hnot, Nat.cast_zero,
      zero_div] at hy
    exact lt_irrefl 0 hy
  have hquotient : ((x.ratio.1 * y.ratio.2 : Nat) : ℚ)
      / (x.ratio.2 * y.ratio.1 : Nat) = x.value / y.value := by
    rw [← ratio_eq_value, ← ratio_eq_value, div_div_div_eq]
    push_cast
    rfl
  rw [← hquotient] at hrange ⊢
  exact ofRatio?_rounded _ (Nat.mul_pos x.ratio_snd_pos hpos) hrange

end Binary64

end LinkOrder.Numeral
