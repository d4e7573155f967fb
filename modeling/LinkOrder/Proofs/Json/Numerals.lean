/-
Numerals of JSON, read and skipped. A numeral goes on as long as it can,
so it is taken whole only where the text behind it does not go on with it
(`Ends`). What is skipped is any numeral (`skipUnsigned_unsigned`,
`unsigned_of_skipUnsigned`). Where a number of 64 bits is expected, what
is read is the exact value of a numeral that has no sign, no point and no
exponent, if 64 bits hold it (`readUnsignedNatural_unsigned_iff`): digits are
counted as dropped from the first on that does not fit, so a significand
that was cut off is never taken for a whole number, and every other
numeral is a floating point number, be it whole.
-/
import LinkOrder.Proofs.Json.Grammar
import LinkOrder.Proofs.Numeral.Spelling

namespace LinkOrder.Json

open Numeral (decimalDigit?)

variable {text rest digits : List Char}

-- ================================================================ ends

/-- The text does not go on with digits. -/
def NoDigit (text : List Char) : Prop :=
  ∀ c ∈ text.head?, isDigit c = false

/-- The text does not go on with a numeral. -/
def Ends (text : List Char) : Prop :=
  ∀ c ∈ text.head?, isDigit c = false ∧ c ≠ '.' ∧ c ≠ 'e' ∧ c ≠ 'E'

/-- What ends a numeral is no digit that would go on with it. -/
theorem Ends.noDigit (h : Ends text) : NoDigit text :=
  fun c hc => (h c hc).1

/-- All digits of a row are skipped, and nothing behind them. -/
theorem skipDigits_append (h : ∀ c ∈ digits, isDigit c)
    (hrest : NoDigit rest) : skipDigits (digits ++ rest) = rest := by
  unfold skipDigits
  rw [List.dropWhile_append_of_pos h]
  cases rest with
  | nil => rfl
  | cons c rest =>
      exact List.dropWhile_cons_of_neg (by simp [hrest c rfl])

/-- A text is its digits and what they leave. -/
theorem exists_digits (text : List Char) :
    ∃ digits, (∀ c ∈ digits, isDigit c) ∧ text = digits ++ skipDigits text
      ∧ NoDigit (skipDigits text) := by
  refine ⟨text.takeWhile isDigit, fun c hc => ?_,
    List.takeWhile_append_dropWhile.symm, fun c hc => ?_⟩
  · exact List.all_eq_true.1 List.all_takeWhile c hc
  · have hhead := List.head?_dropWhile_not isDigit text
    unfold skipDigits at hc
    rw [Option.mem_def.1 hc] at hhead
    simpa using hhead

-- ============================================================ skipping

/-- A row of digits that is demanded is skipped as a whole. -/
theorem skipSomeDigits_append (h : IsDigits digits)
    (hrest : NoDigit rest) : skipSomeDigits (digits ++ rest) = .ok rest := by
  obtain ⟨hsome, hdigits⟩ := h
  cases digits with
  | nil => exact absurd rfl hsome
  | cons c more =>
      have hmore : ∀ d ∈ more, isDigit d :=
        fun d hd => hdigits d (List.mem_cons_of_mem _ hd)
      rw [List.cons_append, skipSomeDigits,
        if_pos (hdigits c List.mem_cons_self),
        skipDigits_append hmore hrest]

/-- And where digits were demanded and skipped, there was such a row. -/
theorem isDigits_of_skipSomeDigits (h : skipSomeDigits text = .ok rest) :
    ∃ digits, IsDigits digits ∧ text = digits ++ rest := by
  unfold skipSomeDigits at h
  split at h
  · next c tail =>
      split at h
      · next hc =>
          cases h
          obtain ⟨digits, hdigits, htail, -⟩ := exists_digits tail
          refine ⟨c :: digits, ⟨List.cons_ne_nil _ _, ?_⟩, ?_⟩
          · rintro d (_ | ⟨_, hd⟩)
            · exact hc
            · exact hdigits d hd
          · rw [List.cons_append, ← htail]
      · cases h
  · cases h

theorem IsDigits.exists_cons (h : IsDigits digits) :
    ∃ c more, digits = c :: more ∧ isDigit c ∧ ∀ d ∈ more, isDigit d := by
  obtain ⟨hsome, hdigits⟩ := h
  cases digits with
  | nil => exact absurd rfl hsome
  | cons c more =>
      exact ⟨c, more, rfl, hdigits c List.mem_cons_self,
        fun d hd => hdigits d (List.mem_cons_of_mem _ hd)⟩

/-- A row of digits is known by its first and the others. -/
theorem isDigits_cons {c : Char} (hc : isDigit c)
    (hmore : ∀ d ∈ digits, isDigit d) : IsDigits (c :: digits) := by
  refine ⟨List.cons_ne_nil _ _, fun d hd => ?_⟩
  rcases List.mem_cons.1 hd with rfl | hd
  · exact hc
  · exact hmore d hd

/-- Digits do not start with a sign. -/
theorem skipExponent_append (power : Power) (hrest : NoDigit rest) :
    skipExponent (power.sign ++ (power.digits ++ rest)) = .ok rest := by
  have hsome := skipSomeDigits_append power.isDigits hrest
  rcases power.isSign with hsign | hsign | hsign
  · obtain ⟨c, more, hdigits, hc, -⟩ := power.isDigits.exists_cons
    rw [hsign, List.nil_append]
    rw [hdigits, List.cons_append] at hsome ⊢
    unfold skipExponent
    split
    · next heq =>
        cases heq
        cases hc
    · next heq =>
        cases heq
        cases hc
    · exact hsome
  · rw [hsign]
    exact hsome
  · rw [hsign]
    exact hsome

/-- What is skipped of an exponent is a sign, if there is one, and
digits. -/
theorem exists_of_skipExponent (h : skipExponent text = .ok rest) :
    ∃ sign digits, (sign = [] ∨ sign = ['+'] ∨ sign = ['-'])
      ∧ IsDigits digits ∧ text = sign ++ (digits ++ rest) := by
  unfold skipExponent at h
  split at h
  · obtain ⟨digits, hdigits, rfl⟩ := isDigits_of_skipSomeDigits h
    exact ⟨['+'], digits, .inr (.inl rfl), hdigits, rfl⟩
  · obtain ⟨digits, hdigits, rfl⟩ := isDigits_of_skipSomeDigits h
    exact ⟨['-'], digits, .inr (.inr rfl), hdigits, rfl⟩
  · obtain ⟨digits, hdigits, rfl⟩ := isDigits_of_skipSomeDigits h
    exact ⟨[], digits, .inl rfl, hdigits, rfl⟩

/-- Where a numeral ends, there is no exponent to skip. -/
theorem skipPower_of_ends (h : Ends rest) : skipPower rest = .ok rest := by
  unfold skipPower
  split
  · exact absurd rfl (h 'e' rfl).2.2.1
  · exact absurd rfl (h 'E' rfl).2.2.2
  · rfl

/-- The exponent of a literal is skipped, be there one or not. -/
theorem skipPower_append (literal : Literal) (hrest : Ends rest) :
    skipPower (literal.powerText ++ rest) = .ok rest := by
  unfold Literal.powerText
  cases literal.power with
  | none => exact skipPower_of_ends hrest
  | some power =>
      have hexponent := skipExponent_append power hrest.noDigit
      have htext : power.text ++ rest
          = power.letter :: (power.sign ++ (power.digits ++ rest)) := by
        rw [Power.text, List.cons_append, List.append_assoc]
      show skipPower (power.text ++ rest) = _
      rw [htext]
      rcases power.isLetter with hletter | hletter
      · rw [hletter]
        exact hexponent
      · rw [hletter]
        exact hexponent

/-- What is skipped is the exponent of some literal. -/
theorem exists_of_skipPower (h : skipPower text = .ok rest) :
    ∃ power : Option Power, text = power.elim [] Power.text ++ rest := by
  have hsome : ∀ letter tail, (letter = 'e' ∨ letter = 'E') →
      skipExponent tail = .ok rest →
      ∃ power : Option Power,
        letter :: tail = power.elim [] Power.text ++ rest := by
    intro letter tail hletter htail
    obtain ⟨sign, digits, hsign, hdigits, rfl⟩ :=
      exists_of_skipExponent htail
    refine ⟨some ⟨letter, sign, digits, hletter, hsign, hdigits⟩, ?_⟩
    show _ = letter :: (sign ++ digits) ++ rest
    rw [List.cons_append, List.append_assoc]
  unfold skipPower at h
  split at h
  · exact hsome 'e' _ (.inl rfl) h
  · exact hsome 'E' _ (.inr rfl) h
  · cases h
    exact ⟨none, rfl⟩

/-- Behind the digits comes no digit and no point. -/
theorem head_powerText (literal : Literal) (hrest : Ends rest) :
    ∀ c ∈ (literal.powerText ++ rest).head?, isDigit c = false ∧ c ≠ '.' := by
  unfold Literal.powerText
  cases literal.power with
  | none => exact fun c hc => ⟨(hrest c hc).1, (hrest c hc).2.1⟩
  | some power =>
      rintro c ⟨⟩
      rcases power.isLetter with hletter | hletter <;> rw [hletter] <;>
        exact ⟨rfl, by decide⟩

/-- Neither an exponent nor the end of a numeral starts with a digit. -/
theorem noDigit_powerText (literal : Literal) (hrest : Ends rest) :
    NoDigit (literal.powerText ++ rest) :=
  fun c hc => (head_powerText literal hrest c hc).1

/-- Nor does a fraction, which starts with a point. -/
theorem noDigit_fraction (literal : Literal) (hrest : Ends rest) :
    NoDigit (literal.fraction ++ (literal.powerText ++ rest)) := by
  unfold Literal.fraction
  cases literal.places with
  | none => exact noDigit_powerText literal hrest
  | some digits =>
      rintro c ⟨⟩
      rfl

/-- Of a literal everything behind the whole part is skipped. -/
theorem skipFraction_append (literal : Literal) (hrest : Ends rest) :
    skipFraction (literal.fraction ++ (literal.powerText ++ rest))
      = .ok rest := by
  have hpower := skipPower_append literal hrest
  unfold Literal.fraction
  cases hplaces : literal.places with
  | none =>
      show skipFraction (literal.powerText ++ rest) = _
      have hhead := head_powerText literal hrest
      unfold skipFraction
      split
      · next heq =>
          rw [heq] at hhead
          exact absurd rfl (hhead '.' rfl).2
      · exact hpower
  | some digits =>
      show skipFraction ('.' :: (digits ++ (literal.powerText ++ rest))) = _
      rw [skipFraction, skipSomeDigits_append
        (literal.isPlaces digits hplaces) (noDigit_powerText literal hrest)]
      exact hpower

/-- What is skipped are places and an exponent, each of which may be
missing. -/
theorem exists_of_skipFraction (h : skipFraction text = .ok rest) :
    ∃ (places : Option (List Char)) (power : Option Power),
      (∀ digits ∈ places, IsDigits digits)
        ∧ text = places.elim [] ('.' :: ·)
          ++ (power.elim [] Power.text ++ rest) := by
  unfold skipFraction at h
  split at h
  · split at h
    · next hskip =>
        obtain ⟨digits, hdigits, rfl⟩ := isDigits_of_skipSomeDigits hskip
        obtain ⟨power, rfl⟩ := exists_of_skipPower h
        refine ⟨some digits, power, ?_, rfl⟩
        rintro _ ⟨⟩
        exact hdigits
    · cases h
  · obtain ⟨power, rfl⟩ := exists_of_skipPower h
    exact ⟨none, power, nofun, rfl⟩

/-- A numeral starts with a zero that is its only digit, or with another
digit. -/
theorem Literal.whole_cases (literal : Literal) :
    literal.whole = ['0'] ∨ ∃ c more, literal.whole = c :: more
      ∧ c ≠ '0' ∧ isDigit c ∧ ∀ d ∈ more, isDigit d := by
  obtain ⟨c, more, hwhole, hc, hmore⟩ := literal.isDigits.exists_cons
  by_cases hzero : c = '0'
  · refine .inl (literal.notIdle ?_)
    rw [hwhole, hzero]
    rfl
  · exact .inr ⟨c, more, hwhole, hzero, hc, hmore⟩

/-- A numeral is skipped as a whole. -/
theorem skipUnsigned_unsigned (literal : Literal) (hrest : Ends rest) :
    skipUnsigned (literal.unsigned ++ rest) = .ok rest := by
  have hfraction := skipFraction_append literal hrest
  have hnoDigit := noDigit_fraction literal hrest
  rw [Literal.unsigned, List.append_assoc, List.append_assoc]
  generalize literal.fraction ++ (literal.powerText ++ rest) = tail at *
  rcases literal.whole_cases with hwhole | ⟨c, more, hwhole, hzero, hc, hmore⟩
  · rw [hwhole, List.singleton_append, skipUnsigned, if_neg]
    · exact hfraction
    · cases tail with
      | nil => simp
      | cons d tail => simp [hnoDigit d rfl]
  · rw [hwhole, List.cons_append]
    unfold skipUnsigned
    split
    · next heq =>
        cases heq
        exact absurd rfl hzero
    · next heq =>
        cases heq
        rw [if_pos hc, skipDigits_append hmore hnoDigit]
        exact hfraction
    · next heq => cases heq

/-- Whatever is skipped is a numeral. -/
theorem unsigned_of_skipUnsigned (minus : Bool)
    (h : skipUnsigned text = .ok rest) :
    ∃ literal : Literal, literal.minus = minus
      ∧ text = literal.unsigned ++ rest := by
  unfold skipUnsigned at h
  split at h
  · split at h
    · cases h
    · obtain ⟨places, power, hplaces, rfl⟩ := exists_of_skipFraction h
      refine ⟨⟨minus, ['0'], places, power, isDigits_cons rfl (by simp),
        hplaces, fun _ => rfl⟩, rfl, ?_⟩
      simp [Literal.unsigned, Literal.fraction, Literal.powerText]
  · next c tail hzero =>
      split at h
      · next hc =>
          obtain ⟨more, hmore, htail, -⟩ := exists_digits tail
          obtain ⟨places, power, hplaces, hskip⟩ := exists_of_skipFraction h
          refine ⟨⟨minus, c :: more, places, power, isDigits_cons hc hmore,
            hplaces, ?_⟩, rfl, ?_⟩
          · rintro ⟨⟩
            exact absurd rfl hzero
          · rw [htail, hskip]
            simp [Literal.unsigned, Literal.fraction, Literal.powerText]
      · cases h
  · cases h

-- ============================================================= reading

/-- Digits have a value, no less than that of those before them. -/
theorem exists_valueFrom? (h : ∀ c ∈ digits, isDigit c) (value : Nat) :
    ∃ total, Numeral.Base.decimal.valueFrom? value digits = some total
      ∧ value ≤ total := by
  induction digits generalizing value with
  | nil => exact ⟨value, rfl, Nat.le_refl _⟩
  | cons c more ih =>
      obtain ⟨d, hd⟩ := Option.isSome_iff_exists.1 (h c List.mem_cons_self)
      have hdigit : Numeral.Base.decimal.digit? c = some d := hd
      obtain ⟨total, htotal, hle⟩ :=
        ih (fun c hc => h c (List.mem_cons_of_mem _ hc)) (value * 10 + d)
      refine ⟨total, ?_, by omega⟩
      rw [Numeral.Base.valueFrom?, hdigit]
      exact htotal

/-- Digits are read to their end. None is dropped exactly if 64 bits hold
their value, and then that is what was read. -/
theorem readDigits_append (h : ∀ c ∈ digits, isDigit c)
    (hrest : NoDigit rest) {significand total : Nat}
    (hsignificand : significand < UInt64.size)
    (htotal : Numeral.Base.decimal.valueFrom? significand digits
      = some total) :
    ∃ read, readDigits significand (digits ++ rest) = (read, rest)
      ∧ (read.dropped = 0 ↔ total < UInt64.size)
      ∧ (read.dropped = 0 → read.significand = total) := by
  induction digits generalizing significand with
  | nil =>
      cases htotal
      refine ⟨⟨total, 0, 0⟩, ?_, by simpa using hsignificand, fun _ => rfl⟩
      rw [List.nil_append]
      cases rest with
      | nil => rfl
      | cons c rest =>
          have hnone : decimalDigit? c = none := by
            simpa [isDigit] using hrest c rfl
          rw [readDigits, hnone]
  | cons c more ih =>
      obtain ⟨d, hd⟩ := Option.isSome_iff_exists.1 (h c List.mem_cons_self)
      have hmore := fun c hc => h c (List.mem_cons_of_mem _ hc)
      have hdigit : Numeral.Base.decimal.digit? c = some d := hd
      rw [Numeral.Base.valueFrom?, hdigit] at htotal
      rw [List.cons_append, readDigits, hd]
      dsimp only
      split
      · next hfits =>
          obtain ⟨read, hread, hdropped, hvalue⟩ := ih hmore hfits htotal
          rw [hread]
          exact ⟨_, rfl, hdropped, hvalue⟩
      · next hwide =>
          obtain ⟨_, hsame, hle⟩ :=
            exists_valueFrom? hmore (significand * 10 + d)
          -- more digits only add, so what does not fit never will
          have htotal' : total = _ :=
            Option.some.inj (htotal.symm.trans hsame)
          rw [skipDigits_append hmore hrest]
          refine ⟨_, rfl, ?_, ?_⟩
          · dsimp only
            omega
          · dsimp only
            omega

/-- Where a point or an exponent follows, or digits were dropped, there is
no whole number. -/
theorem readScaled_ne_natural {minus : Bool} {significand : Nat}
    {exponent : Int} {value : UInt64} :
    readScaled minus significand exponent text
      ≠ .ok (.natural value, rest) := by
  unfold readScaled
  split
  · exact nofun
  · exact nofun

/-- A number with an exponent is never a natural one, not even `1e0`. -/
theorem readExponent_ne_natural {minus : Bool} {significand : Nat}
    {exponent : Int} {value : UInt64} :
    readExponent minus significand exponent text
      ≠ .ok (.natural value, rest) := by
  unfold readExponent
  split
  split
  · exact nofun
  · split
    · exact nofun
    · split
      · exact readScaled_ne_natural
      · split
        · exact nofun
        · exact nofun

/-- Nor is one with a point, not even `1.0`. -/
theorem readPlaces_ne_natural {minus : Bool} {significand : Nat}
    {exponent : Int} {value : UInt64} :
    readPlaces minus significand exponent text
      ≠ .ok (.natural value, rest) := by
  unfold readPlaces
  split
  split
  · split
    · exact nofun
    · exact nofun
  · dsimp only
    split
    · exact readExponent_ne_natural
    · exact readExponent_ne_natural
    · exact readScaled_ne_natural

/-- A whole number is a natural one unless it has a sign. Behind a minus it
is not, even if it is zero. -/
theorem wholeNumber_eq_natural_iff {minus : Bool} {significand : Nat}
    {value : UInt64} :
    wholeNumber minus significand = .natural value
      ↔ minus = false ∧ UInt64.ofNat significand = value := by
  unfold wholeNumber
  cases minus with
  | false => simp
  | true =>
      rw [if_pos rfl]
      split <;> simp

/-- A whole number comes of digits alone, and leaves what follows them. -/
theorem readFraction_eq_natural_iff {minus : Bool} {read : Digits}
    {value : UInt64} :
    readFraction minus read text = .ok (.natural value, rest)
      ↔ (∀ c ∈ text.head?, c ≠ '.' ∧ c ≠ 'e' ∧ c ≠ 'E')
        ∧ read.dropped = 0
        ∧ (minus = false ∧ UInt64.ofNat read.significand = value)
        ∧ text = rest := by
  unfold readFraction
  split
  · refine iff_of_false readPlaces_ne_natural fun h => ?_
    exact absurd rfl (h.1 '.' rfl).1
  · refine iff_of_false readExponent_ne_natural fun h => ?_
    exact absurd rfl (h.1 'e' rfl).2.1
  · refine iff_of_false readExponent_ne_natural fun h => ?_
    exact absurd rfl (h.1 'E' rfl).2.2
  · next hpoint hlower hupper =>
      have hhead : ∀ c ∈ text.head?, c ≠ '.' ∧ c ≠ 'e' ∧ c ≠ 'E' := by
        cases text with
        | nil => exact nofun
        | cons c tail =>
            rintro _ ⟨⟩
            refine ⟨?_, ?_, ?_⟩
            · rintro rfl
              exact hpoint _ rfl
            · rintro rfl
              exact hlower _ rfl
            · rintro rfl
              exact hupper _ rfl
      -- digits that were dropped leave only a floating number
      split
      · next hdropped =>
          rw [Except.ok.injEq, Prod.mk.injEq, wholeNumber_eq_natural_iff]
          exact ⟨fun h => ⟨hhead, hdropped, h⟩, fun h => h.2.2⟩
      · next hdropped =>
          refine iff_of_false readScaled_ne_natural fun h => ?_
          exact hdropped h.2.1

/-- Behind a zero in front no digit may stand. -/
theorem readUnsigned_zero (minus : Bool) (h : NoDigit text) :
    readUnsigned minus ('0' :: text) = readFraction minus ⟨0, 1, 0⟩ text := by
  rw [readUnsigned, if_neg]
  cases text with
  | nil => simp
  | cons c text => simp [h c rfl]

/-- Any other digit may be followed by more. -/
theorem readUnsigned_digits {c : Char} {d : Nat} (minus : Bool)
    (hzero : c ≠ '0') (hd : decimalDigit? c = some d) (text : List Char) :
    readUnsigned minus (c :: text)
      = readFraction minus (readDigits d text).1 (readDigits d text).2 := by
  unfold readUnsigned
  split
  · next heq => cases heq
  · next heq =>
      cases heq
      exact absurd rfl hzero
  · next heq =>
      cases heq
      rw [hd]

theorem lt_size_of_decimalDigit? {c : Char} {d : Nat}
    (h : decimalDigit? c = some d) : d < UInt64.size := by
  unfold decimalDigit? at h
  split at h
  · next hdigit =>
      simp only [Bool.and_eq_true, decide_eq_true_eq] at hdigit
      have hle : c.toNat ≤ 57 := hdigit.2
      have hvalue : c.toNat - 48 = d := Option.some.inj h
      have hsize : 9 < UInt64.size := by decide
      omega
  · cases h

/-- The digits of a numeral are read whole. -/
theorem readUnsigned_unsigned (literal : Literal) (minus : Bool)
    (hrest : Ends rest) :
    ∃ read : Digits,
      readUnsigned minus (literal.unsigned ++ rest)
          = readFraction minus read
            (literal.fraction ++ (literal.powerText ++ rest))
        ∧ (read.dropped = 0 ↔ literal.wholeValue < UInt64.size)
        ∧ (read.dropped = 0 → read.significand = literal.wholeValue) := by
  have hnoDigit := noDigit_fraction literal hrest
  rw [Literal.unsigned, List.append_assoc, List.append_assoc]
  generalize literal.fraction ++ (literal.powerText ++ rest) = tail at *
  unfold Literal.wholeValue
  -- the integer part is a lone zero, or begins with another digit
  rcases literal.whole_cases with hwhole | ⟨c, more, hwhole, hzero, hc, hmore⟩
  · refine ⟨⟨0, 1, 0⟩, ?_, ?_, ?_⟩
    · rw [hwhole, List.singleton_append, readUnsigned_zero minus hnoDigit]
    · rw [hwhole]
      exact iff_of_true rfl (by decide)
    · rw [hwhole]
      exact fun _ => rfl
  · obtain ⟨d, hd⟩ := Option.isSome_iff_exists.1 hc
    have hdigit : Numeral.Base.decimal.digit? c = some d := hd
    obtain ⟨total, htotal, -⟩ := exists_valueFrom? hmore d
    obtain ⟨read, hread, hdropped, hvalue⟩ := readDigits_append hmore
      hnoDigit (lt_size_of_decimalDigit? hd) htotal
    have hwholeValue : Numeral.Base.decimal.valueFrom? 0 literal.whole
        = some total := by
      rw [hwhole, Numeral.Base.valueFrom?, hdigit]
      dsimp only
      rw [Nat.zero_mul, Nat.zero_add]
      exact htotal
    refine ⟨read, ?_, ?_, ?_⟩
    · rw [hwhole, List.cons_append, readUnsigned_digits minus hzero hd, hread]
    · rw [hwholeValue]
      exact hdropped
    · rw [hwholeValue]
      exact hvalue

/-- The reader of natural numbers reads any number, and keeps it if it is
one. -/
theorem readUnsignedNatural_eq_ok_iff {minus : Bool} {value : UInt64} :
    readUnsignedNatural minus text = .ok (value, rest)
      ↔ readUnsigned minus text = .ok (.natural value, rest) := by
  unfold readUnsignedNatural acceptNatural
  split
  · next hread => simp [hread]
  · next number left hread =>
      rw [hread]
      split <;> simp

/-- Where a number of 64 bits is expected, exactly the numerals that write
one are read, and as that. -/
theorem readUnsignedNatural_unsigned_iff (literal : Literal)
    (hrest : Ends rest) {value : UInt64} {left : List Char} :
    readUnsignedNatural literal.minus (literal.unsigned ++ rest)
        = .ok (value, left)
      ↔ literal.natural? = some value ∧ rest = left := by
  obtain ⟨read, hread, hdropped, hvalue⟩ :=
    readUnsigned_unsigned literal literal.minus hrest
  rw [readUnsignedNatural_eq_ok_iff, hread, readFraction_eq_natural_iff]
  unfold Literal.natural? Literal.fraction Literal.powerText
  -- with places or a power it is no integer, whatever its value
  cases literal.places with
  | some digits =>
      refine iff_of_false (fun h => ?_) (by simp)
      exact absurd rfl (h.1 '.' rfl).1
  | none =>
      cases literal.power with
      | some power =>
          refine iff_of_false (fun h => ?_) (by simp)
          have hhead := h.1 power.letter rfl
          rcases power.isLetter with hletter | hletter
          · exact absurd hletter hhead.2.1
          · exact absurd hletter hhead.2.2
      | none =>
          have hhead : ∀ c ∈ rest.head?, c ≠ '.' ∧ c ≠ 'e' ∧ c ≠ 'E' :=
            fun c hc => (hrest c hc).2
          show (∀ c ∈ rest.head?, _) ∧ _ ∧ _ ∧ rest = left ↔ _
          cases literal.minus with
          | true => simp
          | false =>
              by_cases hfits : literal.wholeValue < UInt64.size
              · have hnone := hdropped.2 hfits
                rw [hvalue hnone]
                simp only [Bool.false_or, Option.isSome_none, hfits,
                  Bool.false_eq_true, if_true, if_false,
                  Option.some.injEq, true_and]
                exact ⟨fun h => h.2.2, fun h => ⟨hhead, hnone, h⟩⟩
              · refine iff_of_false (fun h => hfits (hdropped.1 h.2.1)) ?_
                simp [hfits]

/-- Digits that are read and digits that are skipped end at the same
place. -/
theorem snd_readDigits (significand : Nat) (text : List Char) :
    (readDigits significand text).2 = skipDigits text := by
  induction text generalizing significand with
  | nil => rfl
  | cons c rest ih =>
      have hskip : skipDigits (c :: rest)
          = if isDigit c then skipDigits rest else c :: rest :=
        List.dropWhile_cons
      rw [readDigits, hskip]
      unfold isDigit
      cases decimalDigit? c with
      | none => rfl
      | some d =>
          dsimp only
          split
          · exact ih _
          · rfl

/-- Where a numeral ends, there is no fraction to skip. -/
theorem skipFraction_of_ends (h : Ends rest) :
    skipFraction rest = .ok rest := by
  unfold skipFraction
  split
  · exact absurd rfl (h '.' rfl).2.1
  · exact skipPower_of_ends h

/-- What is read as a number of 64 bits could be skipped, and the numeral
does not go on. -/
theorem skipUnsigned_of_readUnsignedNatural {minus : Bool}
    {value : UInt64}
    (h : readUnsignedNatural minus text = .ok (value, rest)) :
    skipUnsigned text = .ok rest ∧ Ends rest := by
  rw [readUnsignedNatural_eq_ok_iff] at h
  have hends : ∀ (read : Digits) (tail : List Char), NoDigit tail →
      readFraction minus read tail = .ok (.natural value, rest) →
      tail = rest ∧ Ends rest := by
    intro read tail hnoDigit hfraction
    obtain ⟨hhead, -, -, rfl⟩ := readFraction_eq_natural_iff.1 hfraction
    exact ⟨rfl, fun c hc => ⟨hnoDigit c hc, hhead c hc⟩⟩
  -- a zero stands alone, other digits go on as long as they can
  unfold readUnsigned at h
  split at h
  · cases h
  · next tail =>
      split at h
      · cases h
      · next hnoDigit =>
          have hnoDigit' : NoDigit tail := by
            intro c hc
            rw [Option.mem_def.1 hc] at hnoDigit
            simpa using hnoDigit
          obtain ⟨rfl, hrest⟩ := hends _ _ hnoDigit' h
          rw [skipUnsigned, if_neg hnoDigit]
          exact ⟨skipFraction_of_ends hrest, hrest⟩
  · next c tail hzero =>
      split at h
      · next d hd =>
          have htail := snd_readDigits d tail
          obtain ⟨-, -, -, hnoDigit⟩ := exists_digits tail
          rw [← htail] at hnoDigit
          obtain ⟨hsame, hrest⟩ := hends _ _ hnoDigit h
          have hc : isDigit c := by
            unfold isDigit
            rw [hd]
            rfl
          refine ⟨?_, hrest⟩
          unfold skipUnsigned
          split
          · next heq =>
              cases heq
              exact absurd rfl hzero
          · next heq =>
              cases heq
              rw [if_pos hc, ← htail, hsame]
              exact skipFraction_of_ends hrest
          · next heq => cases heq
      · cases h

/-- Whatever is read as a number of 64 bits is a numeral that writes
it. -/
theorem exists_of_readUnsignedNatural {minus : Bool} {value : UInt64}
    (h : readUnsignedNatural minus text = .ok (value, rest)) :
    ∃ literal : Literal, literal.minus = minus
      ∧ text = literal.unsigned ++ rest ∧ literal.natural? = some value := by
  obtain ⟨hskip, hrest⟩ := skipUnsigned_of_readUnsignedNatural h
  obtain ⟨literal, rfl, rfl⟩ := unsigned_of_skipUnsigned minus hskip
  exact ⟨literal, rfl, rfl,
    ((readUnsignedNatural_unsigned_iff literal hrest).1 h).1⟩

end LinkOrder.Json
