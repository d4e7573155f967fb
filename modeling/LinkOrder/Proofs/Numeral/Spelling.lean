/-
Numbers as they are spelled, and that reading a spelling gives the number
back. A number has many spellings: zeros may stand in front of it, and the
letters among hexadecimal digits may be of either case, each for itself.

Two facts carry this. Digits that are written with the most significant
one first (`toDigits_induction`) are read from the left, so that what is
read in front of the last digit is the quotient by the base
(`Base.Lawful.valueFrom?_toDigits`); and a hexadecimal digit does not
change its value with its case (`hexDigit?_toLower`). Nothing wraps on the
way, as only the whole value is compared with the greatest that 64 bits
hold.
-/
import LinkOrder.Numeral.Hex

namespace LinkOrder.Numeral

-- ============================================================= written

/-- What holds of single digits, and of a number if it does of all its
digits but the last, which are those of the quotient by the base. -/
theorem toDigits_induction {base : Nat} (hbase : 1 < base)
    {motive : Nat → List Char → Prop}
    (hdigit : ∀ d < base, motive d [Nat.digitChar d])
    (hnext : ∀ n, base ≤ n →
      motive (n / base) (Nat.toDigits base (n / base)) →
        motive n (Nat.toDigits base (n / base)
          ++ [Nat.digitChar (n % base)]))
    (n : Nat) : motive n (Nat.toDigits base n) := by
  induction n using Nat.strongRecOn with
  | ind n ih =>
      by_cases hn : n < base
      · rw [Nat.toDigits_of_lt_base hn]
        exact hdigit n hn
      · have hle : base ≤ n := Nat.le_of_not_lt hn
        have hpos : 0 < n :=
          Nat.lt_of_lt_of_le (Nat.lt_trans Nat.zero_lt_one hbase) hle
        rw [Nat.toDigits_of_base_le hbase hle]
        exact hnext n hle (ih _ (Nat.div_lt_self hpos hbase))

-- =============================================================== bases

/-- A base that reads the digits it is written with, and has no use for
the plus sign. -/
structure Base.Lawful (base : Base) : Prop where
  one_lt_size : 1 < base.size
  digit?_digitChar : ∀ d < base.size,
    base.digit? (Nat.digitChar d) = some d
  digit?_plus : base.digit? '+' = none

theorem Base.lawful_decimal : Base.decimal.Lawful :=
  ⟨by decide, by decide, by decide⟩

theorem Base.lawful_hexadecimal : Base.hexadecimal.Lawful :=
  ⟨by decide, by decide, by decide⟩

section
variable {base : Base}

/-- Digits are read from the left. -/
theorem Base.valueFrom?_append (base : Base) (value : Nat)
    (l k : List Char) :
    base.valueFrom? value (l ++ k)
      = (base.valueFrom? value l).bind fun v => base.valueFrom? v k := by
  induction l generalizing value with
  | nil => rfl
  | cons c rest ih =>
      rw [List.cons_append, Base.valueFrom?, Base.valueFrom?]
      cases base.digit? c with
      | none => rfl
      | some d => exact ih _

/-- Whatever has a value consists of digits. -/
theorem Base.isSome_digit?_of_valueFrom? {value total : Nat}
    {digits : List Char} (h : base.valueFrom? value digits = some total) :
    ∀ c ∈ digits, (base.digit? c).isSome := by
  induction digits generalizing value with
  | nil => simp
  | cons c rest ih =>
      rw [Base.valueFrom?] at h
      cases hdigit : base.digit? c with
      | none =>
          rw [hdigit] at h
          cases h
      | some d =>
          rw [hdigit] at h
          intro c' hc'
          rcases List.mem_cons.1 hc' with rfl | hrest
          · rw [hdigit]
            rfl
          · exact ih h c' hrest

namespace Base.Lawful

/-- Zeros in front add nothing. -/
theorem valueFrom?_zeros (h : base.Lawful) (zeros : Nat)
    (digits : List Char) :
    base.valueFrom? 0 (List.replicate zeros '0' ++ digits)
      = base.valueFrom? 0 digits := by
  have hzero : base.digit? '0' = some 0 :=
    h.digit?_digitChar 0 (Nat.lt_trans Nat.zero_lt_one h.one_lt_size)
  induction zeros with
  | zero => rfl
  | succ n ih =>
      rw [List.replicate_succ, List.cons_append, Base.valueFrom?, hzero]
      dsimp only
      rw [Nat.zero_mul]
      exact ih

/-- The digits of a number have its value. -/
theorem valueFrom?_toDigits (h : base.Lawful) (n : Nat) :
    base.valueFrom? 0 (Nat.toDigits base.size n) = some n := by
  have hlast : ∀ value d, d < base.size →
      base.valueFrom? value [Nat.digitChar d]
        = some (value * base.size + d) := by
    intro value d hd
    rw [Base.valueFrom?, h.digit?_digitChar d hd]
    rfl
  refine toDigits_induction h.one_lt_size
    (motive := fun n digits => base.valueFrom? 0 digits = some n) ?_ ?_ n
  · intro d hd
    rw [hlast 0 d hd, Nat.zero_mul, Nat.zero_add]
  · intro n _ ih
    have hpos : 0 < base.size :=
      Nat.lt_trans Nat.zero_lt_one h.one_lt_size
    rw [Base.valueFrom?_append, ih, Option.bind_some,
      hlast _ _ (Nat.mod_lt n hpos), Nat.mul_comm, Nat.div_add_mod]

/-- Digits with a value of 64 bits are read as that. -/
theorem read?_eq_some (h : base.Lawful) {digits : List Char}
    {value : UInt64} (hdigits : digits ≠ [])
    (hvalue : base.valueFrom? 0 digits = some value.toNat) :
    base.read? digits = some value := by
  have hplus : withoutPlus digits = digits := by
    unfold withoutPlus
    split
    · next rest =>
        have hsign := Base.isSome_digit?_of_valueFrom? hvalue '+'
          List.mem_cons_self
        rw [h.digit?_plus] at hsign
        cases hsign
    · rfl
  unfold Base.read?
  rw [hplus]
  split
  · exact absurd rfl hdigits
  · rw [hvalue]
    dsimp only
    rw [if_pos value.toNat_lt_size, UInt64.ofNat_toNat]

end Base.Lawful

end

-- ============================================================== digits

theorem hexDigit?_eq (c : Char) :
    hexDigit? c
      = if 48 ≤ c.toNat ∧ c.toNat ≤ 57 then some (c.toNat - 48)
        else if 97 ≤ c.toNat ∧ c.toNat ≤ 102 then some (c.toNat - 87)
        else if 65 ≤ c.toNat ∧ c.toNat ≤ 70 then some (c.toNat - 55)
        else none := by
  have hle : ∀ a b : Char, a ≤ b ↔ a.toNat ≤ b.toNat := fun _ _ => Iff.rfl
  simp only [hexDigit?, hle, Bool.and_eq_true, decide_eq_true_eq,
    show '0'.toNat = 48 from rfl, show '9'.toNat = 57 from rfl,
    show 'a'.toNat = 97 from rfl, show 'f'.toNat = 102 from rfl,
    show 'A'.toNat = 65 from rfl, show 'F'.toNat = 70 from rfl]
  split
  · rfl
  · split
    · congr 1
      omega
    · split
      · congr 1
        omega
      · rfl

theorem toNat_toLower (c : Char) :
    c.toLower.toNat
      = if 65 ≤ c.toNat ∧ c.toNat ≤ 90 then c.toNat + 32 else c.toNat := by
  have hupper : c.val ≥ 'A'.val ∧ c.val ≤ 'Z'.val
      ↔ 65 ≤ c.toNat ∧ c.toNat ≤ 90 := Iff.rfl
  unfold Char.toLower
  by_cases h : c.val ≥ 'A'.val ∧ c.val ≤ 'Z'.val
  · have hle := (hupper.1 h).2
    rw [dif_pos h, if_pos (hupper.1 h)]
    show (c.val + 32).toNat = c.val.toNat + 32
    rw [UInt32.toNat_add]
    refine Nat.mod_eq_of_lt ?_
    show c.toNat + 32 < 2 ^ 32
    omega
  · rw [dif_neg h, if_neg (mt hupper.2 h)]

/-- A digit is worth the same in either case. -/
theorem hexDigit?_toLower (c : Char) :
    hexDigit? c.toLower = hexDigit? c := by
  rw [hexDigit?_eq, hexDigit?_eq, toNat_toLower]
  grind

/-- A digit is no blank. -/
theorem isBlank_of_isSome_hexDigit? {c : Char}
    (h : (hexDigit? c).isSome) : Text.isBlank c = false := by
  rw [hexDigit?_eq] at h
  simp only [Text.isBlank, Text.blankRanges, List.any_cons, List.any_nil]
  grind

/-- Decimal digits are hexadecimal ones too. -/
theorem isSome_hexDigit?_of_decimalDigit? {c : Char}
    (h : (decimalDigit? c).isSome) : (hexDigit? c).isSome := by
  unfold decimalDigit? at h
  unfold hexDigit?
  split at h
  · next hdigit =>
      rw [if_pos hdigit]
      rfl
  · cases h

-- ===================================================== hexadecimal

/-- A number spelled in hexadecimal: its digits, each in either case, and
any number of zeros in front of them. -/
structure HexNumeral where
  value : UInt64
  zeros : Nat
  digits : List Char
  spelled : digits.map Char.toLower = Nat.toDigits 16 value.toNat

namespace HexNumeral

/-- The text of the number. -/
def chars (numeral : HexNumeral) : List Char :=
  '0' :: 'x' :: (List.replicate numeral.zeros '0' ++ numeral.digits)

/-- Case does not change what digits are worth. -/
theorem valueFrom?_map_toLower (value : Nat) (digits : List Char) :
    Base.hexadecimal.valueFrom? value (digits.map Char.toLower)
      = Base.hexadecimal.valueFrom? value digits := by
  induction digits generalizing value with
  | nil => rfl
  | cons c rest ih =>
      have hdigit : Base.hexadecimal.digit? c.toLower
          = Base.hexadecimal.digit? c := hexDigit?_toLower c
      rw [List.map_cons, Base.valueFrom?, Base.valueFrom?, hdigit]
      cases Base.hexadecimal.digit? c with
      | none => rfl
      | some d => exact ih _

section
variable (numeral : HexNumeral)

/-- What stands behind the `0x` has the value of the number. -/
theorem valueFrom?_digits :
    Base.hexadecimal.valueFrom? 0
        (List.replicate numeral.zeros '0' ++ numeral.digits)
      = some numeral.value.toNat := by
  rw [Base.lawful_hexadecimal.valueFrom?_zeros, ← valueFrom?_map_toLower,
    numeral.spelled]
  exact Base.lawful_hexadecimal.valueFrom?_toDigits _

/-- A spelled number has no characters but `x` and digits. -/
theorem isSome_hexDigit?_of_mem {c : Char} (h : c ∈ numeral.chars) :
    c = 'x' ∨ (hexDigit? c).isSome := by
  rcases List.mem_cons.1 h with rfl | h
  · exact .inr rfl
  · rcases List.mem_cons.1 h with rfl | h
    · exact .inl rfl
    · exact .inr (Base.isSome_digit?_of_valueFrom?
        numeral.valueFrom?_digits c h)

theorem not_mem_chars {c : Char} (hx : c ≠ 'x')
    (hdigit : hexDigit? c = none) : c ∉ numeral.chars := by
  intro hmem
  rcases numeral.isSome_hexDigit?_of_mem hmem with heq | hsome
  · exact hx heq
  · rw [hdigit] at hsome
    cases hsome

/-- However a number is spelled, it is read back. -/
theorem readHex?_chars : readHex? numeral.chars = some numeral.value := by
  have htrim : Text.trim numeral.chars = numeral.chars := by
    refine Text.trim_eq_self fun c hc => ?_
    rcases numeral.isSome_hexDigit?_of_mem hc with rfl | hsome
    · decide
    · exact isBlank_of_isSome_hexDigit? hsome
  have hdigits : List.replicate numeral.zeros '0' ++ numeral.digits ≠ [] := by
    intro hnil
    have hspelled := numeral.spelled
    rw [(List.append_eq_nil_iff.1 hnil).2] at hspelled
    exact Nat.toDigits_ne_nil hspelled.symm
  unfold readHex?
  rw [htrim]
  exact Base.lawful_hexadecimal.read?_eq_some hdigits
    numeral.valueFrom?_digits

end

end HexNumeral

-- ============================================================= decimal

/-- A number spelled in decimal, behind some spaces. -/
def spaced (spaces value : Nat) : List Char :=
  List.replicate spaces ' ' ++ Nat.toDigits 10 value

theorem isSome_decimalDigit?_of_mem {value : Nat} {c : Char}
    (h : c ∈ Nat.toDigits 10 value) : (decimalDigit? c).isSome :=
  Base.isSome_digit?_of_valueFrom?
    (Base.lawful_decimal.valueFrom?_toDigits value) c h

theorem not_mem_spaced {c : Char} (hspace : c ≠ ' ')
    (hdigit : decimalDigit? c = none) (spaces value : Nat) :
    c ∉ spaced spaces value := by
  intro hmem
  rcases List.mem_append.1 hmem with hmem | hmem
  · exact hspace (List.eq_of_mem_replicate hmem)
  · have hsome := isSome_decimalDigit?_of_mem hmem
    rw [hdigit] at hsome
    cases hsome

/-- The spaces in front of a number are trimmed off. -/
theorem trim_spaced (spaces value : Nat) :
    Text.trim (spaced spaces value) = Nat.toDigits 10 value := by
  have hdigits : Text.trim (Nat.toDigits 10 value)
      = Nat.toDigits 10 value := by
    refine Text.trim_eq_self fun c hc => isBlank_of_isSome_hexDigit? ?_
    exact isSome_hexDigit?_of_decimalDigit? (isSome_decimalDigit?_of_mem hc)
  have hspaces : ∀ c ∈ List.replicate spaces ' ',
      Text.isBlank c = true := by
    intro c hc
    rw [List.eq_of_mem_replicate hc]
    decide
  have hstart : Text.trimStart (spaced spaces value)
      = Text.trimStart (Nat.toDigits 10 value) :=
    List.dropWhile_append_of_pos hspaces
  calc Text.trim (spaced spaces value)
      = Text.trim (Nat.toDigits 10 value) := by
        unfold Text.trim
        rw [hstart]
    _ = Nat.toDigits 10 value := hdigits

/-- Whatever its spaces, the number is read back. -/
theorem read?_trim_spaced (spaces : Nat) (value : UInt64) :
    Base.decimal.read? (Text.trim (spaced spaces value.toNat))
      = some value := by
  rw [trim_spaced]
  exact Base.lawful_decimal.read?_eq_some Nat.toDigits_ne_nil
    (Base.lawful_decimal.valueFrom?_toDigits _)

end LinkOrder.Numeral
