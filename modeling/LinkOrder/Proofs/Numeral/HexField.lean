/-
What a field of a link map says. It says a number if, blanks around it
aside, it is `0x` with at least one hexadecimal digit behind it, of either
case, and perhaps one plus sign between them (`SaysHex`); the number is what
the digits are worth by their places. It is read as exactly that as long as
64 bits hold it. Every other field is refused, and so is a number that needs
more bits, however many zeros stand in front of it: nothing is cut off and
nothing wraps.

Reading goes from the left and multiplies by sixteen at each digit. That
this is the value by places is one equation on folds
(`valueFrom?_hexadecimal_iff`); the rest is taking the field apart.
-/
import Mathlib.Data.List.Forall2
import Mathlib.Data.List.TakeWhile
import Mathlib.Data.Nat.Digits.Defs
import LinkOrder.Proofs.Numeral.Spelling

namespace LinkOrder

-- ============================================================= blanks

namespace Text

variable {before core after : List Char}

/-- What is left of a text without its blanks stands between them. -/
theorem exists_trim (text : List Char) :
    ∃ before after, text = before ++ (trim text ++ after)
      ∧ (∀ c ∈ before, isBlank c) ∧ ∀ c ∈ after, isBlank c := by
  obtain ⟨after, htrim, hafter⟩ :=
    exists_append_dropEndWhile isBlank (trimStart text)
  refine ⟨text.takeWhile isBlank, after, ?_, ?_, hafter⟩
  · unfold trim
    rw [← htrim]
    exact List.takeWhile_append_dropWhile.symm
  · intro c hc
    exact List.all_eq_true.1 List.all_takeWhile c hc

theorem trim_append_left (hbefore : ∀ c ∈ before, isBlank c)
    (text : List Char) : trim (before ++ text) = trim text := by
  unfold trim trimStart
  rw [List.dropWhile_append_of_pos hbefore]

theorem trim_append_right (hafter : ∀ c ∈ after, isBlank c)
    (text : List Char) : trim (text ++ after) = trim text := by
  have hend : ∀ text : List Char,
      dropEndWhile isBlank (text ++ after) = dropEndWhile isBlank text := by
    intro text
    unfold dropEndWhile
    rw [List.reverse_append, List.dropWhile_append_of_pos]
    intro c hc
    exact hafter c (List.mem_reverse.1 hc)
  unfold trim trimStart
  rw [List.dropWhile_append]
  split
  · next hblank =>
      rw [List.isEmpty_iff.1 hblank, List.dropWhile_eq_nil_iff.2 hafter]
  · exact hend _

end Text

namespace Numeral

-- ============================================================= digits

/-- The sixteen digits in order, in either case. -/
def hexRows : List (List Char) :=
  ["0123456789abcdef".toList, "0123456789ABCDEF".toList]

/-- The digit is worth its place among the sixteen. -/
def IsWorth (c : Char) (worth : Nat) : Prop :=
  ∃ row ∈ hexRows, row[worth]? = some c

instance (c : Char) (worth : Nat) : Decidable (IsWorth c worth) :=
  inferInstanceAs (Decidable (∃ row ∈ hexRows, row[worth]? = some c))

theorem IsWorth.lt {c : Char} {worth : Nat} (h : IsWorth c worth) :
    worth < 16 := by
  obtain ⟨row, hrow, hget⟩ := h
  have hlength : ∀ row ∈ hexRows, row.length = 16 := by decide
  rw [← hlength row hrow]
  exact (List.getElem?_eq_some_iff.1 hget).1

/-- Digits are read as what they are worth. -/
theorem hexDigit?_eq_some_iff {c : Char} {worth : Nat} :
    hexDigit? c = some worth ↔ IsWorth c worth := by
  constructor
  · intro h
    have hbelow : ∀ n < 128, ∀ d ∈ hexDigit? (Char.ofNat n),
        IsWorth (Char.ofNat n) d := by decide +kernel
    have hc : c.toNat < 128 := by
      by_contra hbeyond
      rw [hexDigit?_eq] at h
      split_ifs at h <;> omega
    have hworth := hbelow c.toNat hc worth
    rw [Char.ofNat_toNat] at hworth
    exact hworth h
  · intro h
    have hall : ∀ d < 16, ∀ row ∈ hexRows,
        row[d]?.bind hexDigit? = some d := by decide +kernel
    obtain ⟨row, hrow, hget⟩ := id h
    have hdigit := hall worth h.lt row hrow
    rwa [hget] at hdigit

/-- The number that digits write, by their places. -/
def byPlaces (worths : List Nat) : Nat := Nat.ofDigits 16 worths.reverse

/-- Reading from the left gives the value by places. -/
theorem byPlaces_eq_foldl (worths : List Nat) :
    byPlaces worths = worths.foldl (fun value d => value * 16 + d) 0 := by
  rw [byPlaces, Nat.ofDigits_eq_foldr, List.foldr_reverse]
  congr 1
  funext value d
  show d + 16 * value = value * 16 + d
  omega

/-- The digits of base sixteen are read from the left, each for what it is
worth. -/
theorem valueFrom?_hexadecimal_iff {value total : Nat}
    {digits : List Char} :
    Base.hexadecimal.valueFrom? value digits = some total
      ↔ ∃ worths, List.Forall₂ IsWorth digits worths
        ∧ worths.foldl (fun value d => value * 16 + d) value = total := by
  induction digits generalizing value with
  | nil => simp [Base.valueFrom?]
  | cons c rest ih =>
      have hbase : Base.hexadecimal.digit? c = hexDigit? c := rfl
      rw [Base.valueFrom?, hbase]
      simp only [List.forall₂_cons_left_iff, ← hexDigit?_eq_some_iff]
      cases hdigit : hexDigit? c with
      | none =>
          constructor
          · intro h
            cases h
          · rintro ⟨_, ⟨_, _, ⟨⟩, _⟩, _⟩
      | some d =>
          dsimp only
          rw [ih]
          constructor
          · rintro ⟨worths, hworths, rfl⟩
            exact ⟨d :: worths, ⟨d, worths, rfl, hworths, rfl⟩, rfl⟩
          · rintro ⟨_, ⟨_, worths, ⟨⟩, hworths, rfl⟩, rfl⟩
            exact ⟨worths, hworths, rfl⟩

-- ============================================================= fields

/-- The field says this number: blanks around it aside, it is `0x`, perhaps
a plus sign, and at least one digit, which together are worth it. -/
def SaysHex (field : List Char) (value : Nat) : Prop :=
  ∃ before sign digits worths after,
    field = before ++ ('0' :: 'x' :: (sign ++ digits) ++ after)
      ∧ (∀ c ∈ before, Text.isBlank c) ∧ (∀ c ∈ after, Text.isBlank c)
      ∧ (sign = [] ∨ sign = ['+']) ∧ digits ≠ []
      ∧ List.Forall₂ IsWorth digits worths ∧ byPlaces worths = value

section
variable {field before after sign digits : List Char} {value : Nat}
  {number : UInt64}

theorem withoutPlus_append (hsign : sign = [] ∨ sign = ['+'])
    (hplus : '+' ∉ digits) : withoutPlus (sign ++ digits) = digits := by
  rcases hsign with rfl | rfl
  · unfold withoutPlus
    split
    · next heq =>
        rw [List.nil_append] at heq
        exact absurd (by simp [heq]) hplus
    · rfl
  · rfl

/-- At most one plus sign is set aside, and nothing else. -/
theorem exists_withoutPlus (text : List Char) :
    ∃ sign, text = sign ++ withoutPlus text
      ∧ (sign = [] ∨ sign = ['+']) := by
  unfold withoutPlus
  split
  · exact ⟨['+'], rfl, .inr rfl⟩
  · exact ⟨[], rfl, .inl rfl⟩

/-- Digits are read as the number that they write, if 64 bits hold it. -/
theorem read?_hexadecimal (hsign : sign = [] ∨ sign = ['+'])
    (hdigits : digits ≠ [])
    (hvalue : Base.hexadecimal.valueFrom? 0 digits = some value) :
    Base.hexadecimal.read? (sign ++ digits)
      = if value < UInt64.size then some (UInt64.ofNat value) else none := by
  have hplus : '+' ∉ digits := by
    intro hmem
    have hsome := Base.isSome_digit?_of_valueFrom? hvalue _ hmem
    rw [Base.lawful_hexadecimal.digit?_plus] at hsome
    cases hsome
  unfold Base.read?
  rw [withoutPlus_append hsign hplus]
  split
  · exact absurd rfl hdigits
  · rw [hvalue]

/-- What stands in a field without its blanks is read behind the `0x`. -/
theorem readHex?_append (hbefore : ∀ c ∈ before, Text.isBlank c)
    (hafter : ∀ c ∈ after, Text.isBlank c)
    (hcore : ∀ c ∈ digits, Text.isBlank c = false) :
    readHex? (before ++ ('0' :: 'x' :: digits ++ after))
      = Base.hexadecimal.read? digits := by
  have hnone : ∀ c ∈ '0' :: 'x' :: digits, Text.isBlank c = false := by
    intro c hc
    rcases List.mem_cons.1 hc with rfl | hc
    · decide
    · rcases List.mem_cons.1 hc with rfl | hc
      · decide
      · exact hcore c hc
  unfold readHex?
  rw [Text.trim_append_left hbefore, Text.trim_append_right hafter,
    Text.trim_eq_self hnone]
  rfl

/-- A field that says a number is read as it, if 64 bits hold it. -/
theorem SaysHex.readHex?_eq (h : SaysHex field value) :
    readHex? field
      = if value < UInt64.size then some (UInt64.ofNat value) else none := by
  obtain ⟨before, sign, digits, worths, after, rfl, hbefore, hafter, hsign,
    hdigits, hworths, rfl⟩ := h
  have hvalue : Base.hexadecimal.valueFrom? 0 digits
      = some (byPlaces worths) :=
    valueFrom?_hexadecimal_iff.2 ⟨worths, hworths,
      (byPlaces_eq_foldl worths).symm⟩
  have hcore : ∀ c ∈ sign ++ digits, Text.isBlank c = false := by
    intro c hc
    rcases List.mem_append.1 hc with hc | hc
    · rcases hsign with rfl | rfl
      · cases hc
      · rw [List.mem_singleton.1 hc]
        decide
    · exact isBlank_of_isSome_hexDigit?
        (Base.isSome_digit?_of_valueFrom? hvalue c hc)
  rw [readHex?_append hbefore hafter hcore]
  exact read?_hexadecimal hsign hdigits hvalue

/-- Whatever is read of a field is said by it. -/
theorem saysHex_of_readHex? (h : readHex? field = some number) :
    SaysHex field number.toNat := by
  obtain ⟨before, after, hfield, hbefore, hafter⟩ := Text.exists_trim field
  unfold readHex? at h
  split at h
  case h_2 => cases h
  case h_1 text htrim =>
    obtain ⟨sign, htext, hsign⟩ := exists_withoutPlus text
    unfold Base.read? at h
    split at h
    case h_1 => cases h
    case h_2 hdigits =>
      split at h
      case h_2 => cases h
      case h_1 value hvalue =>
        split at h
        case isFalse => cases h
        case isTrue hlt =>
          cases h
          obtain ⟨worths, hworths, hfold⟩ :=
            valueFrom?_hexadecimal_iff.1 hvalue
          -- put the blanks and the sign back around the digits
          refine ⟨before, sign, withoutPlus text, worths, after, ?_,
            hbefore, hafter, hsign, hdigits, hworths, ?_⟩
          · rw [← htext, ← htrim]
            exact hfield
          · rw [byPlaces_eq_foldl, hfold]
            exact (UInt64.toNat_ofNat_of_lt hlt).symm

/-- A field is read as a number of 64 bits exactly if it says that
number. -/
theorem readHex?_eq_some_iff :
    readHex? field = some number ↔ SaysHex field number.toNat := by
  constructor
  · exact saysHex_of_readHex?
  · intro h
    rw [h.readHex?_eq, if_pos number.toNat_lt_size, UInt64.ofNat_toNat]

/-- A field is refused if it says no number, or only one that 64 bits do
not hold. -/
theorem readHex?_eq_none_iff :
    readHex? field = none
      ↔ ∀ value, SaysHex field value → UInt64.size ≤ value := by
  constructor
  · intro hnone value h
    by_contra hlt
    rw [h.readHex?_eq, if_pos (Nat.lt_of_not_le hlt)] at hnone
    cases hnone
  · intro h
    cases hread : readHex? field with
    | none => rfl
    | some number =>
        have hle := h _ (saysHex_of_readHex? hread)
        have hlt := number.toNat_lt_size
        omega

end

/-- Blanks around a number do not change what is read. -/
theorem HexNumeral.readHex?_append (numeral : HexNumeral)
    {before after : List Char} (hbefore : ∀ c ∈ before, Text.isBlank c)
    (hafter : ∀ c ∈ after, Text.isBlank c) :
    readHex? (before ++ (numeral.chars ++ after)) = some numeral.value := by
  have hself := numeral.readHex?_chars
  unfold readHex? at hself ⊢
  rw [Text.trim_append_left hbefore, Text.trim_append_right hafter]
  exact hself

/-- Numbers are written in lower case. -/
theorem map_toLower_toDigits (n : Nat) :
    (Nat.toDigits 16 n).map Char.toLower = Nat.toDigits 16 n := by
  have hdigit : ∀ d < 16, (Nat.digitChar d).toLower = Nat.digitChar d := by
    decide
  refine toDigits_induction (by decide)
    (motive := fun _ digits => digits.map Char.toLower = digits) ?_ ?_ n
  · intro d hd
    rw [List.map_singleton, hdigit d hd]
  · intro n _ ih
    rw [List.map_append, ih, List.map_singleton,
      hdigit (n % 16) (Nat.mod_lt n (by decide))]

/-- An address as it is written. -/
def HexNumeral.shortest (address : UInt64) : HexNumeral where
  value := address
  zeros := 0
  digits := Nat.toDigits 16 address.toNat
  spelled := map_toLower_toDigits _

/-- A field is read as a number of 64 bits exactly if it says it, and as
none if it says no number or a greater one. However an address is spelled,
with zeros in front, digits of either case and blanks around it, it is read
back, and so is the form in which addresses are written. -/
theorem readHex?_exact (field : List Char) (number address : UInt64) :
    (readHex? field = some number ↔ SaysHex field number.toNat)
      ∧ (readHex? field = none
        ↔ ∀ value, SaysHex field value → 2 ^ 64 ≤ value)
      ∧ readHex? (formatAddress address).toList = some address
      ∧ ∀ zeros digits before after,
        digits.map Char.toLower = Nat.toDigits 16 address.toNat →
        (∀ c ∈ before, Text.isBlank c) → (∀ c ∈ after, Text.isBlank c) →
          readHex? (before ++ ('0' :: 'x'
              :: (List.replicate zeros '0' ++ digits) ++ after))
            = some address := by
  refine ⟨readHex?_eq_some_iff, readHex?_eq_none_iff, ?_, ?_⟩
  · have hself := (HexNumeral.shortest address).readHex?_chars
    rw [formatAddress, String.toList_ofList]
    exact hself
  · intro zeros digits before after hspelled hbefore hafter
    exact HexNumeral.readHex?_append ⟨address, zeros, digits, hspelled⟩
      hbefore hafter

/-- A field with blanks beyond ASCII around it, a plus sign and idle zeros. -/
def paddedField : List Char := "\u3000 0x+000000000000000000fF\t".toList

/-- One more than 64 bits hold. -/
def overlongField : List Char := "0x10000000000000000".toList

/-- The padded field is read and the overlong one is not, though both say a
number; digits of either case may stand in one field. -/
theorem readHex?_exact_padded :
    readHex? paddedField = some 255 ∧ SaysHex paddedField 255
      ∧ readHex? overlongField = none
      ∧ (∀ value, SaysHex overlongField value → 2 ^ 64 ≤ value)
      ∧ readHex? " 0x00Ab\n".toList = some 0xab := by
  have hpadded : readHex? paddedField = some 255 := by decide +kernel
  have hnone : readHex? overlongField = none := by decide +kernel
  refine ⟨hpadded, (readHex?_exact paddedField 255 0).1.1 hpadded, hnone,
    (readHex?_exact overlongField 0 0).2.1.1 hnone, ?_⟩
  have hspace : ∀ c ∈ [' '], Text.isBlank c := by
    intro c hc
    rw [List.mem_singleton.1 hc]
    decide
  have hline : ∀ c ∈ ['\n'], Text.isBlank c := by
    intro c hc
    rw [List.mem_singleton.1 hc]
    decide
  exact (readHex?_exact [] 0 0xab).2.2.2 2 ['A', 'b'] [' '] ['\n']
    (by decide +kernel) hspace hline

end Numeral

end LinkOrder
