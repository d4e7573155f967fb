/-
The number of seconds that a duration is taken for. It is rounded twice,
nanoseconds first, and still grows with the nanoseconds
(`inSeconds_mono`) and stays between the whole seconds around the duration
(`le_inSeconds`, `inSeconds_le`). So every comparison that chooses a unit
says what it would say of the duration itself, and has to be computed only
for the greatest or the least duration of a unit (`lt_iff_of_turn`,
`lt_natCast_iff`).
-/
import LinkOrder.Duration
import LinkOrder.Proofs.Numeral.Rounding

namespace LinkOrder.Duration

open Numeral (Binary64)
open Numeral.Binary64 (Rounded)

/-- What a duration is made of: seconds of 64 bits, and nanoseconds that
are no whole second. -/
structure Bounded (d : Duration) : Prop where
  seconds_lt : d.seconds < 2 ^ 64
  nanoseconds_lt : d.nanoseconds < 1_000_000_000

-- ============================================================= seconds

theorem nearest_rounded (num : Nat) {den : Nat} (hden : 0 < den)
    (hrange : (num : ℚ) / den ≤ Binary64.greatest.value) :
    Rounded ((num : ℚ) / den) (nearest num den) := by
  obtain ⟨x, hx, hrounded⟩ := Binary64.ofRatio?_rounded num hden hrange
  rw [nearest, hx]
  exact hrounded

/-- The least power of two that no seconds of 64 bits reach. -/
def secondsLimit : Binary64 := ⟨1, 64⟩

theorem secondsLimit_inFormat : secondsLimit.InFormat :=
  ⟨by decide, by decide, by decide⟩

theorem value_secondsLimit : secondsLimit.value = 2 ^ 64 := by
  norm_num [Binary64.value, secondsLimit]

theorem secondsLimit_add_one_le :
    secondsLimit.value + 1 ≤ Binary64.greatest.value := by
  have hgreater : (⟨1, 65⟩ : Binary64).InFormat :=
    ⟨by decide, by decide, by decide⟩
  refine le_trans ?_ hgreater.value_le_greatest
  norm_num [Binary64.value, secondsLimit]

theorem natCast_rounded {n : Nat} (hn : n ≤ 2 ^ 64) :
    Rounded (n : ℚ) (nearest n 1) := by
  have hrounded := nearest_rounded n Nat.zero_lt_one (by
    rw [Nat.cast_one, div_one]
    refine le_trans ?_ secondsLimit_inFormat.value_le_greatest
    rw [value_secondsLimit]
    exact_mod_cast hn)
  rwa [Nat.cast_one, div_one] at hrounded

theorem value_nearest_natCast {n : Nat}
    (hn : n ≤ Binary64.significandLimit) : (nearest n 1).value = n :=
  (natCast_rounded (hn.trans (by decide))).value_eq_natCast hn

section
variable {d : Duration} {fraction : Binary64}

theorem nanoseconds_div_le (hd : d.Bounded) :
    (d.nanoseconds : ℚ) / 1_000_000_000 ≤ (1 : Nat) := by
  rw [div_le_iff₀ (by norm_num), Nat.cast_one, one_mul]
  exact_mod_cast hd.nanoseconds_lt.le

theorem fraction_le (hd : d.Bounded)
    (h : Rounded ((d.nanoseconds : ℚ) / 1_000_000_000) fraction) :
    fraction.value ≤ 1 := by
  exact_mod_cast h.value_le_natCast (by decide) (nanoseconds_div_le hd)

/-- The part of a second is its exact value, rounded. -/
theorem exists_fraction (hd : d.Bounded) :
    ∃ fraction,
      (nearest d.nanoseconds 1).div? (nearest 1_000_000_000 1)
          = some fraction
        ∧ Rounded ((d.nanoseconds : ℚ) / 1_000_000_000) fraction := by
  have hlt := hd.nanoseconds_lt
  have hnanoseconds : (nearest d.nanoseconds 1).value = d.nanoseconds :=
    value_nearest_natCast (by simp only [Binary64.significandLimit]; omega)
  have hbillion : (nearest 1_000_000_000 1).value = 1_000_000_000 := by
    exact_mod_cast value_nearest_natCast (n := 1_000_000_000) (by decide)
  rw [← hnanoseconds, ← hbillion]
  refine Binary64.div?_rounded _ _ (by rw [hbillion]; norm_num) ?_
  rw [hnanoseconds, hbillion]
  refine (nanoseconds_div_le hd).trans (le_trans ?_ secondsLimit_add_one_le)
  rw [Nat.cast_one, value_secondsLimit]
  norm_num

/-- How a duration becomes a number of seconds: the nanoseconds are a
fraction, and the seconds are added to it, each step rounded. -/
theorem inSeconds_rounded (hd : d.Bounded) :
    ∃ whole fraction,
      Rounded (d.seconds : ℚ) whole
        ∧ Rounded ((d.nanoseconds : ℚ) / 1_000_000_000) fraction
        ∧ Rounded (whole.value + fraction.value) d.inSeconds := by
  obtain ⟨fraction, hdiv, hfraction⟩ := exists_fraction hd
  have hwhole := natCast_rounded hd.seconds_lt.le
  have hwholeLe : (nearest d.seconds 1).value ≤ secondsLimit.value := by
    refine hwhole.value_le secondsLimit_inFormat ?_
    rw [value_secondsLimit]
    exact_mod_cast hd.seconds_lt.le
  obtain ⟨total, hadd, htotal⟩ :=
    Binary64.add?_rounded (nearest d.seconds 1) fraction
      ((add_le_add hwholeLe (fraction_le hd hfraction)).trans
        secondsLimit_add_one_le)
  have hinSeconds : d.inSeconds = total := by
    unfold inSeconds
    simp only [hdiv, hadd, Option.getD_some]
  rw [hinSeconds]
  exact ⟨nearest d.seconds 1, fraction, hwhole, hfraction, htotal⟩

end

/-- Of durations with the same seconds, the one with more nanoseconds is
no shorter. -/
theorem inSeconds_mono {d d' : Duration} (hd : d.Bounded)
    (hd' : d'.Bounded) (hseconds : d.seconds = d'.seconds)
    (hnanoseconds : d.nanoseconds ≤ d'.nanoseconds) :
    d.inSeconds.value ≤ d'.inSeconds.value := by
  obtain ⟨whole, fraction, hwhole, hfraction, htotal⟩ :=
    inSeconds_rounded hd
  obtain ⟨whole', fraction', hwhole', hfraction', htotal'⟩ :=
    inSeconds_rounded hd'
  refine htotal.mono htotal' (add_le_add ?_ ?_)
  · exact hwhole.mono hwhole' (by rw [hseconds])
  · refine hfraction.mono hfraction' ?_
    exact div_le_div_of_nonneg_right (by exact_mod_cast hnanoseconds)
      (by norm_num)

/-- The seconds are counted in full. -/
theorem le_inSeconds {d : Duration} (hd : d.Bounded) {s : Nat}
    (hs : s ≤ Binary64.significandLimit) (hle : s ≤ d.seconds) :
    (s : ℚ) ≤ d.inSeconds.value := by
  obtain ⟨whole, fraction, hwhole, hfraction, htotal⟩ :=
    inSeconds_rounded hd
  refine htotal.natCast_le_value hs ?_
  have hwholeLe := hwhole.natCast_le_value hs (by exact_mod_cast hle)
  have hnonneg : 0 ≤ fraction.value := Binary64.value_nonneg fraction
  linarith

/-- The nanoseconds never count for more than a second. -/
theorem inSeconds_le {d : Duration} (hd : d.Bounded) {s : Nat}
    (hs : s ≤ Binary64.significandLimit) (hlt : d.seconds < s) :
    d.inSeconds.value ≤ s := by
  obtain ⟨whole, fraction, hwhole, hfraction, htotal⟩ :=
    inSeconds_rounded hd
  refine htotal.value_le_natCast hs ?_
  have hwholeEq : whole.value = d.seconds :=
    hwhole.value_eq_natCast (by omega)
  have hfractionLe := fraction_le hd hfraction
  have hcast : (d.seconds : ℚ) + 1 ≤ s := by exact_mod_cast hlt
  rw [hwholeEq]
  linarith

/-- So many seconds that no fraction of one can be told. -/
theorem exists_inSeconds_eq_natCast {d : Duration} (hd : d.Bounded)
    (hlong : Binary64.significandLimit ≤ d.seconds) :
    ∃ s : Nat, d.inSeconds.value = s := by
  obtain ⟨whole, fraction, hwhole, -, htotal⟩ := inSeconds_rounded hd
  refine htotal.exists_value_eq_natCast ?_
  have hwholeLe := hwhole.natCast_le_value (le_refl _)
    (by exact_mod_cast hlong)
  have hnonneg : 0 ≤ fraction.value := Binary64.value_nonneg fraction
  linarith

-- ===================================================== short durations

/-- So many seconds, and parts of one of which there are 2^31. -/
def inParts (seconds parts : Nat) : Binary64 :=
  ⟨seconds * 2 ^ 31 + parts, -31⟩

theorem value_inParts (s parts : Nat) :
    (inParts s parts).value = s + parts / 2 ^ 31 := by
  have hpower : (2 : ℚ) ^ (-31 : Int) = 1 / 2 ^ 31 := by norm_num
  rw [inParts, Binary64.value, hpower]
  push_cast
  linarith

/-- The 53 bits hold such a number where the seconds take 22 of them. -/
theorem inParts_inFormat {s parts : Nat} (hs : s < 2 ^ 22)
    (hparts : parts < 2 ^ 31) : (inParts s parts).InFormat := by
  have hleast : Binary64.leastExponent ≤ -31 := by decide
  have hgreatest : -31 ≤ Binary64.greatestExponent := by decide
  refine ⟨?_, hleast, hgreatest⟩
  simp only [inParts, Binary64.significandLimit]
  omega

section
variable {d : Duration}

theorem whole_eq_of_short {whole : Binary64}
    (hwhole : Rounded (d.seconds : ℚ) whole)
    (hshort : d.seconds < 2 ^ 22) : whole.value = d.seconds :=
  hwhole.value_eq_natCast (hshort.le.trans (by decide))

/-- Below 2^22 seconds the number is not rounded up past such a part. -/
theorem inSeconds_le_inParts (hd : d.Bounded) (hshort : d.seconds < 2 ^ 22)
    (parts : Nat) (hparts : parts < 2 ^ 31)
    (hle : d.nanoseconds * 2 ^ 31 ≤ parts * 1_000_000_000) :
    d.inSeconds.value ≤ d.seconds + parts / 2 ^ 31 := by
  obtain ⟨whole, fraction, hwhole, hfraction, htotal⟩ :=
    inSeconds_rounded hd
  have hfractionLe : fraction.value ≤ (inParts 0 parts).value := by
    refine hfraction.value_le (inParts_inFormat (by decide) hparts) ?_
    rw [value_inParts, Nat.cast_zero, zero_add,
      div_le_div_iff₀ (by norm_num) (by norm_num)]
    exact_mod_cast hle
  rw [value_inParts, Nat.cast_zero, zero_add] at hfractionLe
  rw [← value_inParts]
  refine htotal.value_le (inParts_inFormat hshort hparts) ?_
  rw [whole_eq_of_short hwhole hshort, value_inParts]
  linarith

/-- Nor is it rounded down past one. -/
theorem inParts_le_inSeconds (hd : d.Bounded) (hshort : d.seconds < 2 ^ 22)
    (parts : Nat) (hparts : parts < 2 ^ 31)
    (hle : parts * 1_000_000_000 ≤ d.nanoseconds * 2 ^ 31) :
    (d.seconds : ℚ) + parts / 2 ^ 31 ≤ d.inSeconds.value := by
  obtain ⟨whole, fraction, hwhole, hfraction, htotal⟩ :=
    inSeconds_rounded hd
  have hleFraction : (inParts 0 parts).value ≤ fraction.value := by
    refine hfraction.le_value (inParts_inFormat (by decide) hparts) ?_
    rw [value_inParts, Nat.cast_zero, zero_add,
      div_le_div_iff₀ (by norm_num) (by norm_num)]
    exact_mod_cast hle
  rw [value_inParts, Nat.cast_zero, zero_add] at hleFraction
  rw [← value_inParts]
  refine htotal.le_value (inParts_inFormat hshort hparts) ?_
  rw [whole_eq_of_short hwhole hshort, value_inParts]
  linarith

end

-- =============================================================== units

/-- Where the seconds are given, a comparison is decided by the
nanoseconds: it turns at the count at which it is computed to turn. -/
theorem lt_iff_of_turn {d : Duration} (hd : d.Bounded) {n : Nat}
    (hn : n + 1 < 1_000_000_000) {bound : Binary64}
    (hbelow : (inSeconds ⟨d.seconds, n⟩).lt bound = true)
    (habove : (inSeconds ⟨d.seconds, n + 1⟩).lt bound = false) :
    d.inSeconds.lt bound = true ↔ d.nanoseconds ≤ n := by
  rw [Binary64.lt_iff] at hbelow ⊢
  rw [← Bool.not_eq_true, Binary64.lt_iff, not_lt] at habove
  constructor
  · intro hlt
    by_contra hmore
    have hturn : Bounded ⟨d.seconds, n + 1⟩ := ⟨hd.seconds_lt, hn⟩
    have hle := inSeconds_mono hturn hd rfl (Nat.lt_of_not_le hmore)
    exact absurd (habove.trans hle) (not_le.2 hlt)
  · intro hle
    have hturn : Bounded ⟨d.seconds, n⟩ :=
      ⟨hd.seconds_lt, Nat.lt_of_succ_lt hn⟩
    exact lt_of_le_of_lt (inSeconds_mono hd hturn rfl hle) hbelow

/-- A number of seconds that computing finds just above the duration of
its last nanosecond is above the durations before it, and no others. -/
theorem lt_natCast_iff {d : Duration} (hd : d.Bounded) {s : Nat}
    (hs : s + 1 ≤ Binary64.significandLimit)
    (hlast : (inSeconds ⟨s, 999_999_999⟩).lt (nearest (s + 1) 1) = true) :
    d.inSeconds.lt (nearest (s + 1) 1) = true ↔ d.seconds < s + 1 := by
  rw [Binary64.lt_iff, value_nearest_natCast hs] at hlast ⊢
  constructor
  · intro hlt
    by_contra hlong
    exact absurd (le_inSeconds hd hs (Nat.le_of_not_lt hlong))
      (not_le.2 hlt)
  · intro hlt
    by_cases heq : d.seconds = s
    · have hbound : Bounded ⟨s, 999_999_999⟩ :=
        ⟨heq ▸ hd.seconds_lt, Nat.lt_succ_self _⟩
      exact lt_of_le_of_lt (inSeconds_mono hd hbound heq
        (Nat.le_of_lt_succ hd.nanoseconds_lt)) hlast
    · have hshort : d.seconds < s :=
        Nat.lt_of_le_of_ne (Nat.le_of_lt_succ hlt) heq
      refine lt_of_le_of_lt
        (inSeconds_le hd (Nat.le_of_succ_le hs) hshort) ?_
      exact_mod_cast Nat.lt_succ_self s

/-- Rounding takes no duration across the minute. -/
theorem lt_minute_iff {d : Duration} (hd : d.Bounded) :
    d.inSeconds.lt (nearest 60 1) = true ↔ d.seconds < 60 :=
  lt_natCast_iff hd (s := 59) (by decide) (by decide)

theorem lt_second_iff {d : Duration} (hd : d.Bounded) :
    d.inSeconds.lt (nearest 1 1) = true ↔ d.seconds < 1 :=
  lt_natCast_iff hd (s := 0) (by decide) (by decide +kernel)

theorem lt_millisecond_iff {d : Duration} (hd : d.Bounded)
    (hseconds : d.seconds = 0) :
    d.inSeconds.lt (nearest 1 1000) = true ↔ d.nanoseconds ≤ 999_999 :=
  lt_iff_of_turn hd (by decide) (by rw [hseconds]; decide +kernel)
    (by rw [hseconds]; decide +kernel)

end LinkOrder.Duration
