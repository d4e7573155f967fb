/-
Encoding a text and decoding the bytes gives the text back
(`decode?_encode`). A character takes from one to four bytes. The first
tells how many follow and, where only some values make a character of that
length, narrows the range of the second; each byte behind the first
carries six bits. So the bytes of one character are decoded to it whatever
stands behind them (`decodeFrom_encodeChar`), and a text is decoded
character by character.
-/
import LinkOrder.Text.Utf8

namespace LinkOrder.Utf8

-- ======================================================= leading bytes

section
variable {b : UInt8}

theorem lead?_two (hlow : 0xc2 ≤ b.toNat) (hhigh : b.toNat ≤ 0xdf) :
    lead? b = some ⟨0x80, 0xbf, 0, b.toNat - 0xc0⟩ := by
  simp [lead?, UInt8.le_iff_toNat_le, hlow, hhigh]

theorem lead?_three (hlow : 0xe0 ≤ b.toNat) (hhigh : b.toNat ≤ 0xef) :
    lead? b = some ⟨if b.toNat = 0xe0 then 0xa0 else 0x80,
      if b.toNat = 0xed then 0x9f else 0xbf, 1, b.toNat - 0xe0⟩ := by
  simp only [lead?, ← UInt8.toNat_inj, Bool.and_eq_true, decide_eq_true_eq,
    UInt8.le_iff_toNat_le, UInt8.reduceToNat]
  grind

theorem lead?_four (hlow : 0xf0 ≤ b.toNat) (hhigh : b.toNat ≤ 0xf4) :
    lead? b = some ⟨if b.toNat = 0xf0 then 0x90 else 0x80,
      if b.toNat = 0xf4 then 0x8f else 0xbf, 2, b.toNat - 0xf0⟩ := by
  simp only [lead?, ← UInt8.toNat_inj, Bool.and_eq_true, decide_eq_true_eq,
    UInt8.le_iff_toNat_le, UInt8.reduceToNat]
  grind

/-- A byte that begins a sequence yields nothing by itself. -/
theorem decodeFrom_lead {started : Started} (h : lead? b = some started)
    (hb : 0x80 ≤ b.toNat) (rest : List UInt8) :
    decodeFrom none (b :: rest) = decodeFrom (some started) rest := by
  have hhigh : ¬ b < 0x80 :=
    UInt8.not_lt.2 (UInt8.le_iff_toNat_le.2 hb)
  simp [decodeFrom, open?, hhigh, h]

end

-- ===================================================== bytes behind them

/-- The byte that carries the last six bits of a number. -/
def carrier (n : Nat) : UInt8 := UInt8.ofNat (n % 64 + 0x80)

theorem toNat_carrier (n : Nat) : (carrier n).toNat = n % 64 + 0x80 := by
  rw [carrier, UInt8.toNat_ofNat']
  omega

section
variable {low high : UInt8} {value n : Nat}
  (hlow : low.toNat ≤ n % 64 + 0x80) (hhigh : n % 64 + 0x80 ≤ high.toNat)
include hlow hhigh

/-- A byte in the range completes a character. -/
theorem decodeFrom_last (rest : List UInt8) :
    decodeFrom (some ⟨low, high, 0, value⟩) (carrier n :: rest)
      = some (Char.ofNat (value * 64 + n % 64)) :: decodeFrom none rest := by
  simp [decodeFrom, UInt8.le_iff_toNat_le, toNat_carrier, hlow, hhigh]

/-- A byte in the range carries a character on. -/
theorem decodeFrom_next (more : Nat) (rest : List UInt8) :
    decodeFrom (some ⟨low, high, more + 1, value⟩) (carrier n :: rest)
      = decodeFrom (some ⟨0x80, 0xbf, more, value * 64 + n % 64⟩) rest := by
  simp [decodeFrom, UInt8.le_iff_toNat_le, toNat_carrier, hlow, hhigh]

end

-- =========================================================== characters

theorem toNat_ofNat {n : Nat} (h : n < 256) : (UInt8.ofNat n).toNat = n := by
  rw [UInt8.toNat_ofNat', Nat.mod_eq_of_lt h]

section
variable {v : Nat} (rest : List UInt8)

theorem decodeFrom_one (h : v < 0x80) :
    decodeFrom none (UInt8.ofNat v :: rest)
      = some (Char.ofNat v) :: decodeFrom none rest := by
  have hlead : (UInt8.ofNat v).toNat = v := toNat_ofNat (by omega)
  have hascii : UInt8.ofNat v < 0x80 := by
    rw [UInt8.lt_iff_toNat_lt, hlead]
    exact h
  rw [decodeFrom, open?_ascii hascii, hlead]
  rfl

theorem decodeFrom_two (hlow : 0x80 ≤ v) (hhigh : v < 0x800) :
    decodeFrom none
        (UInt8.ofNat (v / 64 % 32 + 0xc0) :: carrier v :: rest)
      = some (Char.ofNat v) :: decodeFrom none rest := by
  have hlead : (UInt8.ofNat (v / 64 % 32 + 0xc0)).toNat = v / 64 + 0xc0 := by
    rw [toNat_ofNat (by omega)]
    omega
  have hstart := lead?_two (b := UInt8.ofNat (v / 64 % 32 + 0xc0))
    (by omega) (by omega)
  rw [hlead, Nat.add_sub_cancel] at hstart
  rw [decodeFrom_lead hstart (by omega), decodeFrom_last]
  · congr 3
    omega
  · exact Nat.le_add_left _ _
  · simp only [UInt8.reduceToNat]
    omega

/-- The bytes of three that could make less than 0x800, or a surrogate,
are those outside the narrowed ranges. -/
theorem decodeFrom_three (hlow : 0x800 ≤ v) (hhigh : v < 0x10000)
    (hsurrogate : v < 0xd800 ∨ 0xdfff < v) :
    decodeFrom none (UInt8.ofNat (v / 4096 % 16 + 0xe0)
        :: carrier (v / 64) :: carrier v :: rest)
      = some (Char.ofNat v) :: decodeFrom none rest := by
  have hlead : (UInt8.ofNat (v / 4096 % 16 + 0xe0)).toNat
      = v / 4096 + 0xe0 := by
    rw [toNat_ofNat (by omega)]
    omega
  have hstart := lead?_three (b := UInt8.ofNat (v / 4096 % 16 + 0xe0))
    (by omega) (by omega)
  rw [hlead, Nat.add_sub_cancel] at hstart
  rw [decodeFrom_lead hstart (by omega), decodeFrom_next, decodeFrom_last]
  · congr 3
    omega
  · exact Nat.le_add_left _ _
  · simp only [UInt8.reduceToNat]
    omega
  · split <;> simp only [UInt8.reduceToNat] <;> omega
  · split <;> simp only [UInt8.reduceToNat] <;> omega

/-- The bytes of four that could make less than 0x10000, or more than
there are characters, are those outside the narrowed ranges. -/
theorem decodeFrom_four (hlow : 0x10000 ≤ v) (hhigh : v < 0x110000) :
    decodeFrom none (UInt8.ofNat (v / 262144 % 8 + 0xf0)
        :: carrier (v / 4096) :: carrier (v / 64) :: carrier v :: rest)
      = some (Char.ofNat v) :: decodeFrom none rest := by
  have hlead : (UInt8.ofNat (v / 262144 % 8 + 0xf0)).toNat
      = v / 262144 + 0xf0 := by
    rw [toNat_ofNat (by omega)]
    omega
  have hstart := lead?_four (b := UInt8.ofNat (v / 262144 % 8 + 0xf0))
    (by omega) (by omega)
  rw [hlead, Nat.add_sub_cancel] at hstart
  rw [decodeFrom_lead hstart (by omega), decodeFrom_next, decodeFrom_next,
    decodeFrom_last]
  · congr 3
    omega
  · exact Nat.le_add_left _ _
  · simp only [UInt8.reduceToNat]
    omega
  · exact Nat.le_add_left _ _
  · simp only [UInt8.reduceToNat]
    omega
  · split <;> simp only [UInt8.reduceToNat] <;> omega
  · split <;> simp only [UInt8.reduceToNat] <;> omega

end

/-- The bytes of a character are decoded to it, whatever is behind
them. -/
theorem decodeFrom_encodeChar (c : Char) (rest : List UInt8) :
    decodeFrom none (String.utf8EncodeChar c ++ rest)
      = some c :: decodeFrom none rest := by
  have hvalid : c.toNat < 0xd800 ∨ 0xdfff < c.toNat ∧ c.toNat < 0x110000 :=
    c.valid
  have hc : Char.ofNat c.toNat = c := Char.ofNat_toNat c
  unfold String.utf8EncodeChar
  change decodeFrom none ((if c.toNat ≤ 0x7f then _ else _) ++ rest) = _
  split
  · have hone := decodeFrom_one (v := c.toNat) rest (by omega)
    rwa [hc] at hone
  change decodeFrom none ((if c.toNat ≤ 0x7ff then _ else _) ++ rest) = _
  split
  · have htwo := decodeFrom_two (v := c.toNat) rest (by omega) (by omega)
    rwa [hc] at htwo
  change decodeFrom none ((if c.toNat ≤ 0xffff then _ else _) ++ rest) = _
  split
  · have hthree := decodeFrom_three (v := c.toNat) rest (by omega)
      (by omega) (by omega)
    rwa [hc] at hthree
  · have hfour := decodeFrom_four (v := c.toNat) rest (by omega) (by omega)
    rwa [hc] at hfour

-- ================================================================ texts

/-- Nothing is replaced where every sequence is a whole one. -/
theorem decode_encode (text : List Char) :
    decode (encode text) = text.map some := by
  induction text with
  | nil => rfl
  | cons c rest ih =>
      rw [encode, List.flatMap_cons, decode, decodeFrom_encodeChar]
      exact congrArg (some c :: ·) ih

theorem sequence?_map_some {α : Type} (l : List α) :
    sequence? (l.map some) = some l := by
  induction l with
  | nil => rfl
  | cons a rest ih => rw [List.map_cons, sequence?, ih, Option.map_some]

/-- A text is read back from its bytes. -/
theorem decode?_encode (text : List Char) :
    decode? (encode text) = some text := by
  rw [decode?, decode_encode, sequence?_map_some]

end LinkOrder.Utf8
