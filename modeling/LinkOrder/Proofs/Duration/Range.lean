/-
Durations and the ranges of their units. The unit is chosen before the
places are rounded, and nothing is carried afterwards: where the seconds
round up to sixty, sixty is what is written (`Carries`).

What is written is a reading (`format_eq`): the unit is that of the
duration itself, and the count of the last unit is at most one too many
(`hundredths_le`, `tenths_le`). A text says one reading only, so it is in
range just if that reading is (`inRange_reading_iff`).
-/
import LinkOrder.Proofs.Duration.Reading
import LinkOrder.Proofs.Duration.Seconds

namespace LinkOrder.Duration

open Numeral (Binary64 roundDiv withPlaces)

-- ============================================================== counts

variable (d : Duration)

/-- The hundredths of a second, rounded. -/
def hundredths : Nat :=
  roundDiv (d.inSeconds.ratio.1 * 100) d.inSeconds.ratio.2

/-- The tenths of a second past the whole minutes, rounded. -/
def tenths : Nat :=
  roundDiv (d.inSeconds.ratio.1 % (60 * d.inSeconds.ratio.2) * 10)
    d.inSeconds.ratio.2

/-- What is written of a duration. Its own seconds and nanoseconds choose
the unit. -/
def reading : Reading :=
  if d.seconds = 0 then
    if d.nanoseconds < 1_000_000 then .microseconds (d.nanoseconds / 1_000)
    else .milliseconds (d.nanoseconds / 1_000_000)
  else if d.seconds < 60 then .seconds d.hundredths
  else .minutes (wholeMinutes d.inSeconds) d.tenths

/-- The seconds round up to sixty: those of less than a minute in
hundredths, those past the whole minutes in tenths. -/
def Carries : Prop :=
  (d.seconds = 59 ∧ 995_000_000 < d.nanoseconds)
    ∨ (60 ≤ d.seconds
        ∧ 1199 * d.inSeconds.ratio.2
            ≤ 20 * (d.inSeconds.ratio.1 % (60 * d.inSeconds.ratio.2)))

instance : Decidable d.Carries :=
  inferInstanceAs (Decidable (_ ∨ _))

variable {d}

/-- What is printed is the reading, as a text. -/
theorem format_eq (hd : d.Bounded) : d.format = d.reading.text := by
  unfold format reading
  dsimp only
  by_cases hzero : d.seconds = 0
  · rw [if_pos hzero]
    have hsecond : d.inSeconds.lt (nearest 1 1) = true :=
      (lt_second_iff hd).2 (by omega)
    by_cases hmillisecond : d.nanoseconds < 1_000_000
    · have hlt : d.inSeconds.lt (nearest 1 1000) = true :=
        (lt_millisecond_iff hd hzero).2 (by omega)
      rw [if_pos hlt, if_pos hmillisecond, microseconds, hzero,
        Nat.zero_mul, Nat.zero_add, Reading.text_microseconds]
    · have hge : ¬ d.inSeconds.lt (nearest 1 1000) = true := by
        rw [lt_millisecond_iff hd hzero]
        omega
      rw [if_neg hge, if_pos hsecond, if_neg hmillisecond, milliseconds,
        hzero, Nat.zero_mul, Nat.zero_add, Reading.text_milliseconds]
  · have hsecond : ¬ d.inSeconds.lt (nearest 1 1) = true := by
      rw [lt_second_iff hd]
      omega
    -- what is no less than a second is no less than a millisecond
    have hmillisecond : ¬ d.inSeconds.lt (nearest 1 1000) = true := by
      rw [Binary64.lt_iff] at hsecond ⊢
      have hless : (nearest 1 1000).value < (nearest 1 1).value :=
        (Binary64.lt_iff _ _).1 (by decide)
      exact fun hlt => hsecond (hlt.trans hless)
    rw [if_neg hmillisecond, if_neg hsecond, if_neg hzero]
    by_cases hminute : d.seconds < 60
    · rw [if_pos ((lt_minute_iff hd).2 hminute), if_pos hminute]
      exact (Reading.text_seconds _ _).symm
    · rw [if_neg (mt (lt_minute_iff hd).1 hminute), if_neg hminute]
      exact (Reading.text_minutes _ _ _).symm

-- =============================================================== range

/-- The hundredths are those of the seconds as a number, which is itself
rounded, and not those of the exact duration. -/
theorem hundredths_isNearestEven (d : Duration) :
    Numeral.IsNearestEven (d.inSeconds.value * 100) d.hundredths := by
  have hnearest := Numeral.roundDiv_isNearestEven
    (d.inSeconds.ratio.1 * 100) d.inSeconds.ratio_snd_pos
  rw [Nat.cast_mul, mul_div_right_comm, Binary64.ratio_eq_value] at hnearest
  exact hnearest

theorem hundredths_mono {d d' : Duration}
    (h : d.inSeconds.value ≤ d'.inSeconds.value) :
    d.hundredths ≤ d'.hundredths :=
  (hundredths_isNearestEven d).mono (hundredths_isNearestEven d')
    (by linarith)

theorem hundredths_le {s : Nat} (h : d.inSeconds.value ≤ s) :
    d.hundredths ≤ s * 100 := by
  refine (hundredths_isNearestEven d).mono
    (Numeral.IsNearestEven.natCast (s * 100)) ?_
  push_cast
  linarith

/-- Under a minute they come to sixty seconds only from the last five
milliseconds, and not at the very start of these. -/
theorem hundredths_lt_iff (hd : d.Bounded) (hminute : d.seconds < 60) :
    d.hundredths < 6000
      ↔ ¬ (d.seconds = 59 ∧ 995_000_000 < d.nanoseconds) := by
  have hlt := hd.nanoseconds_lt
  by_cases hlast : d.seconds = 59
  · by_cases hmore : 995_000_000 < d.nanoseconds
    · have hturn : Bounded ⟨59, 995_000_001⟩ := ⟨by decide, by decide⟩
      have hsixty : hundredths ⟨59, 995_000_001⟩ = 6000 := by decide
      have hle := hundredths_mono (inSeconds_mono hturn hd hlast.symm hmore)
      rw [hsixty] at hle
      exact iff_of_false (Nat.not_lt_of_le hle) (not_not.2 ⟨hlast, hmore⟩)
    · have hturn : Bounded ⟨59, 995_000_000⟩ := ⟨by decide, by decide⟩
      have hless : hundredths ⟨59, 995_000_000⟩ = 5999 := by decide
      have hle := hundredths_mono
        (inSeconds_mono hd hturn hlast (Nat.le_of_not_lt hmore))
      rw [hless] at hle
      exact iff_of_true (Nat.lt_succ_of_le hle) fun h => hmore h.2
  · have hle : d.hundredths ≤ 59 * 100 :=
      hundredths_le (inSeconds_le hd (by decide) (by omega))
    exact iff_of_true (by omega) fun h => hlast h.1

/-- The tenths are those of what is left after the whole minutes. -/
theorem tenths_isNearestEven (d : Duration) :
    Numeral.IsNearestEven
      ((d.inSeconds.ratio.1 % (60 * d.inSeconds.ratio.2) : Nat)
        / d.inSeconds.ratio.2 * 10)
      d.tenths := by
  have hnearest := Numeral.roundDiv_isNearestEven
    (d.inSeconds.ratio.1 % (60 * d.inSeconds.ratio.2) * 10)
    d.inSeconds.ratio_snd_pos
  rw [Nat.cast_mul, mul_div_right_comm] at hnearest
  exact hnearest

/-- They come to sixty seconds from 59.95 on, that figure included. -/
theorem tenths_lt_iff (d : Duration) :
    d.tenths < 600
      ↔ ¬ 1199 * d.inSeconds.ratio.2
          ≤ 20 * (d.inSeconds.ratio.1 % (60 * d.inSeconds.ratio.2)) := by
  have hden : (0 : ℚ) < d.inSeconds.ratio.2 := by
    exact_mod_cast d.inSeconds.ratio_snd_pos
  rw [← not_le, tenths_isNearestEven d 600]
  generalize d.inSeconds.ratio.1 % (60 * d.inSeconds.ratio.2) = rest
  refine not_congr ?_
  have hturn : (1199 : ℚ) / 20 ≤ rest / d.inSeconds.ratio.2
      ↔ 1199 * d.inSeconds.ratio.2 ≤ 20 * rest := by
    rw [div_le_div_iff₀ (by norm_num) hden, mul_comm (rest : ℚ)]
    exact_mod_cast Iff.rfl
  rw [← hturn]
  constructor
  · rintro (habove | ⟨htie, -⟩)
    · push_cast at habove
      linarith
    · push_cast at htie
      linarith
  · intro hle
    -- six hundred is even, so the middle is rounded up to it
    rcases lt_or_eq_of_le hle with hlt | heq
    · left
      push_cast
      linarith
    · right
      refine ⟨?_, by decide⟩
      push_cast
      linarith

theorem tenths_le (d : Duration) : d.tenths ≤ 600 := by
  have hden := d.inSeconds.ratio_snd_pos
  have hdenq : (0 : ℚ) < d.inSeconds.ratio.2 := by exact_mod_cast hden
  refine (tenths_isNearestEven d).mono
    (Numeral.IsNearestEven.natCast 600) ?_
  have hlt := Nat.mod_lt d.inSeconds.ratio.1
    (Nat.mul_pos (by decide : 0 < 60) hden)
  have hle : ((d.inSeconds.ratio.1 % (60 * d.inSeconds.ratio.2) : Nat) : ℚ)
      / d.inSeconds.ratio.2 ≤ 60 := by
    rw [div_le_iff₀ hdenq]
    exact_mod_cast hlt.le
  push_cast
  linarith

/-- The seconds past the whole minutes are as many as the number of
seconds is above the minutes. -/
theorem carry_iff {x : Binary64} {k : Nat} (hlow : (60 * k : ℚ) ≤ x.value)
    (hhigh : x.value < 60 * k + 60) :
    1199 * x.ratio.2 ≤ 20 * (x.ratio.1 % (60 * x.ratio.2))
      ↔ (60 * k + 1199 / 20 : ℚ) ≤ x.value := by
  have hden : (0 : ℚ) < x.ratio.2 := by exact_mod_cast x.ratio_snd_pos
  rw [← x.ratio_eq_value] at hlow hhigh ⊢
  rw [le_div_iff₀ hden] at hlow ⊢
  rw [div_lt_iff₀ hden] at hhigh
  -- take the whole minutes off the numerator
  obtain ⟨rest, hrest⟩ := Nat.exists_eq_add_of_le
    (show 60 * k * x.ratio.2 ≤ x.ratio.1 by exact_mod_cast hlow)
  have hnum : (x.ratio.1 : ℚ) = 60 * k * x.ratio.2 + rest := by
    exact_mod_cast hrest
  have hlt : rest < 60 * x.ratio.2 := by
    have : (rest : ℚ) < 60 * x.ratio.2 := by linarith
    exact_mod_cast this
  have hmod : x.ratio.1 % (60 * x.ratio.2) = rest := by
    rw [hrest, Nat.mul_right_comm, Nat.mul_add_mod, Nat.mod_eq_of_lt hlt]
  rw [hmod, hnum]
  constructor
  · intro hcarry
    have : (1199 * x.ratio.2 : ℚ) ≤ 20 * rest := by exact_mod_cast hcarry
    linarith
  · intro hcarry
    have : (1199 * x.ratio.2 : ℚ) ≤ 20 * rest := by linarith
    exact_mod_cast this

/-- Only the last second of a minute can round up to sixty. -/
theorem Carries.seconds_mod (h : d.Carries) (hd : d.Bounded) :
    d.seconds % 60 = 59 := by
  rcases h with ⟨hlast, -⟩ | ⟨-, hcarry⟩
  · rw [hlast]
  · by_contra hmod
    by_cases hlong : Binary64.significandLimit ≤ d.seconds
    · -- whole seconds, of which a minute has fifty-nine at most
      obtain ⟨s, hs⟩ := exists_inSeconds_eq_natCast hd hlong
      have hsplit : (s : ℚ) = 60 * (s / 60 : Nat) + (s % 60 : Nat) := by
        exact_mod_cast (Nat.div_add_mod s 60).symm
      have hrest : ((s % 60 : Nat) : ℚ) ≤ 59 := by
        exact_mod_cast Nat.le_of_lt_succ (Nat.mod_lt s (by decide))
      have hnonneg : (0 : ℚ) ≤ (s % 60 : Nat) := Nat.cast_nonneg _
      rw [carry_iff (k := s / 60) (by rw [hs]; linarith)
        (by rw [hs]; linarith), hs] at hcarry
      linarith
    · have hshort := Nat.le_of_lt (Nat.lt_of_not_le hlong)
      have hlow := le_inSeconds hd hshort (le_refl _)
      have hhigh := inSeconds_le hd (Nat.lt_of_not_le hlong)
        (Nat.lt_succ_self _)
      have hsplit : (d.seconds : ℚ)
          = 60 * (d.seconds / 60 : Nat) + (d.seconds % 60 : Nat) := by
        exact_mod_cast (Nat.div_add_mod d.seconds 60).symm
      have hrest : ((d.seconds % 60 : Nat) : ℚ) ≤ 58 := by
        exact_mod_cast (show d.seconds % 60 ≤ 58 by omega)
      have hnonneg : (0 : ℚ) ≤ (d.seconds % 60 : Nat) := Nat.cast_nonneg _
      push_cast at hhigh
      rw [carry_iff (k := d.seconds / 60) (by linarith) (by linarith)]
        at hcarry
      linarith

/-- The seconds of a reading stay below sixty unless rounding carries. -/
theorem inRange_reading_iff (hd : d.Bounded) :
    d.reading.InRange ↔ ¬ d.Carries := by
  have hlt := hd.nanoseconds_lt
  unfold reading Carries
  by_cases hminute : d.seconds < 60
  · have hcarries : ¬ ((d.seconds = 59 ∧ 995_000_000 < d.nanoseconds)
        ∨ (60 ≤ d.seconds
          ∧ 1199 * d.inSeconds.ratio.2
            ≤ 20 * (d.inSeconds.ratio.1 % (60 * d.inSeconds.ratio.2))))
        ↔ ¬ (d.seconds = 59 ∧ 995_000_000 < d.nanoseconds) := by
      omega
    rw [hcarries]
    -- short of a second nothing can carry
    by_cases hzero : d.seconds = 0
    · rw [if_pos hzero]
      refine iff_of_true ?_ (by omega)
      split
      · show d.nanoseconds / 1_000 < 1000
        omega
      · show d.nanoseconds / 1_000_000 < 1000
        omega
    · rw [if_neg hzero, if_pos hminute]
      exact hundredths_lt_iff hd hminute
  · have hzero : d.seconds ≠ 0 := by omega
    rw [if_neg hzero, if_neg hminute]
    refine (tenths_lt_iff d).trans (not_congr ?_)
    constructor
    · intro hcarry
      exact .inr ⟨Nat.le_of_not_lt hminute, hcarry⟩
    · rintro (⟨hlast, -⟩ | ⟨-, hcarry⟩)
      · omega
      · exact hcarry

/-- Where the seconds round up to sixty, sixty is what is written. -/
theorem Carries.format_eq (h : d.Carries) (hd : d.Bounded) :
    d.format
      = if d.seconds < 60 then "60.00s"
        else toString (wholeMinutes d.inSeconds) ++ "m 60.0s" := by
  have hrange := mt (inRange_reading_iff hd).1 (not_not.2 h)
  rw [Duration.format_eq hd]
  unfold reading at hrange ⊢
  by_cases hminute : d.seconds < 60
  · have hlast : d.seconds = 59 := by
      rcases h with ⟨hlast, -⟩ | ⟨hlong, -⟩
      · exact hlast
      · omega
    have hzero : d.seconds ≠ 0 := by omega
    rw [if_neg hzero, if_pos hminute] at hrange
    rw [if_neg hzero, if_pos hminute, if_pos hminute]
    have hle : d.hundredths ≤ 60 * 100 :=
      hundredths_le (inSeconds_le hd (by decide) hminute)
    -- out of range, and yet no more than sixty
    have hsixty : d.hundredths = 6000 :=
      Nat.le_antisymm hle (Nat.le_of_not_lt hrange)
    rw [hsixty]
    decide
  · have hzero : d.seconds ≠ 0 := by omega
    rw [if_neg hzero, if_neg hminute] at hrange
    rw [if_neg hzero, if_neg hminute, if_neg hminute]
    have hsixty : d.tenths = 600 :=
      Nat.le_antisymm (tenths_le d) (Nat.le_of_not_lt hrange)
    rw [hsixty, Reading.text, Reading.chars, ← String.toList_inj]
    have hplaces : withPlaces 1 600 ++ ['s'] = "60.0s".toList := by decide
    rw [hplaces]
    simp

/-- Up to 2^22 seconds, which is seven weeks, the last second of a minute
rounds up from its last twentieth on, to the nanosecond. -/
theorem carries_iff_of_short (hd : d.Bounded) (hlong : 60 ≤ d.seconds)
    (hshort : d.seconds < 2 ^ 22) (hlast : d.seconds % 60 = 59)
    (hturn : d.nanoseconds ≠ 950_000_000) :
    d.Carries ↔ 950_000_000 < d.nanoseconds := by
  have hnanoseconds := hd.nanoseconds_lt
  have hsplit : (d.seconds : ℚ) = 60 * (d.seconds / 60 : Nat) + 59 := by
    exact_mod_cast (show d.seconds = 60 * (d.seconds / 60) + 59 by omega)
  have hlow := le_inSeconds hd (hshort.le.trans (by decide)) (le_refl _)
  have hhigh := inSeconds_le_inParts hd hshort 2_147_483_647
    (by decide) (by omega)
  have hcarries : d.Carries
      ↔ (60 * (d.seconds / 60 : Nat) + 1199 / 20 : ℚ)
          ≤ d.inSeconds.value := by
    push_cast at hhigh
    rw [← carry_iff (by linarith) (by linarith)]
    unfold Carries
    omega
  rw [hcarries]
  -- the twentieth lies between two of the parts that a second is cut into
  constructor
  · intro hcarry
    by_contra hless
    have hbefore := inSeconds_le_inParts hd hshort 2_040_109_465
      (by decide) (by omega)
    push_cast at hbefore
    linarith
  · intro hmore
    have hbehind := inParts_le_inSeconds hd hshort 2_040_109_466
      (by decide) (by omega)
    push_cast at hbehind
    linarith

/-- A duration is written in range for its unit just if its seconds do not
round up to sixty. Where they do, which they can in the last second of a
minute only, the text says sixty seconds; up to seven weeks the turn is
after 0.95 of that second, or after 0.995 where there are no minutes. -/
theorem inRange_format_iff (d : Duration) (hd : d.Bounded) :
    ((∃ r : Reading, r.InRange ∧ d.format = r.text) ↔ ¬ d.Carries)
      ∧ (d.Carries →
          d.seconds % 60 = 59
            ∧ d.format
                = if d.seconds < 60 then "60.00s"
                  else toString (wholeMinutes d.inSeconds) ++ "m 60.0s")
      ∧ (60 ≤ d.seconds → d.seconds < 2 ^ 22 → d.seconds % 60 = 59 →
          d.nanoseconds ≠ 950_000_000 →
            (d.Carries ↔ 950_000_000 < d.nanoseconds)) := by
  refine ⟨⟨?_, ?_⟩, ?_, ?_⟩
  · rintro ⟨r, hrange, hformat⟩
    rw [Duration.format_eq hd] at hformat
    rw [← inRange_reading_iff hd, Reading.text_injective hformat]
    exact hrange
  · intro h
    exact ⟨d.reading, (inRange_reading_iff hd).2 h, Duration.format_eq hd⟩
  · intro h
    exact ⟨h.seconds_mod hd, h.format_eq hd⟩
  · intro hlong hshort hlast hturn
    exact carries_iff_of_short hd hlong hshort hlast hturn

/-- Three hundredths of a second before two minutes. -/
theorem inRange_format_iff_lastSecond :
    Bounded ⟨119, 970_000_000⟩
      ∧ format ⟨119, 970_000_000⟩ = "1m 60.0s"
      ∧ ¬ ∃ r : Reading, r.InRange ∧ format ⟨119, 970_000_000⟩ = r.text := by
  have hd : Bounded ⟨119, 970_000_000⟩ := ⟨by decide, by decide⟩
  obtain ⟨hrange, htext, -⟩ := inRange_format_iff ⟨119, 970_000_000⟩ hd
  have hcarries : Carries ⟨119, 970_000_000⟩ := by decide
  refine ⟨hd, (htext hcarries).2.trans (by decide), ?_⟩
  exact fun h => hrange.1 h hcarries

/-- A duration of less than a minute that is written as sixty seconds. -/
theorem sixty_seconds_written :
    Bounded ⟨59, 999_000_000⟩
      ∧ format ⟨59, 999_000_000⟩ = "60.00s"
      ∧ ¬ ∃ r : Reading, r.InRange ∧ format ⟨59, 999_000_000⟩ = r.text := by
  have hformat : format ⟨59, 999_000_000⟩ = "60.00s" := by decide
  have hsixty : (Reading.seconds 6000).text = "60.00s" := by decide
  refine ⟨⟨by decide, by decide⟩, hformat, ?_⟩
  rintro ⟨r, hrange, htext⟩
  rw [hformat, ← hsixty] at htext
  have hr := Reading.text_injective htext
  rw [← hr] at hrange
  exact absurd hrange (Nat.lt_irrefl 6000)

end LinkOrder.Duration
