/-
Bytes as text. A stream of bytes is a row of encoded characters and of
faults, a fault being the longest run of bytes that starts a character
and cannot be completed. A lossy reader puts the replacement character
for each fault; a strict one accepts no fault at all. Main statements: the
decoder forgets everything at a byte below 0x80 (`decodeLossy_append_cons`),
and newlines come from newline bytes only (`newline_mem_of_mem_decodeLossy`),
so a text may be cut at its newlines before or after decoding.
-/

namespace LinkOrder.Utf8

/-- A character of which some bytes have been read: the range in which
the next byte must lie, how many must follow that one, and the value of
the bits so far. -/
structure Started where
  low : UInt8
  high : UInt8
  more : Nat
  value : Nat

/-- The character that a leading byte starts, if it can start one. The
narrowed ranges exclude overlong forms, surrogates and values above
0x10ffff. -/
def lead? (b : UInt8) : Option Started :=
  if 0xc2 ≤ b && b ≤ 0xdf then some ⟨0x80, 0xbf, 0, b.toNat - 0xc0⟩
  else if b = 0xe0 then some ⟨0xa0, 0xbf, 1, 0⟩
  else if 0xe1 ≤ b && b ≤ 0xec then some ⟨0x80, 0xbf, 1, b.toNat - 0xe0⟩
  else if b = 0xed then some ⟨0x80, 0x9f, 1, 0xd⟩
  else if 0xee ≤ b && b ≤ 0xef then some ⟨0x80, 0xbf, 1, b.toNat - 0xe0⟩
  else if b = 0xf0 then some ⟨0x90, 0xbf, 2, 0⟩
  else if 0xf1 ≤ b && b ≤ 0xf3 then some ⟨0x80, 0xbf, 2, b.toNat - 0xf0⟩
  else if b = 0xf4 then some ⟨0x80, 0x8f, 2, 4⟩
  else none

/-- What a byte between characters yields at once, and the character that
it starts. -/
def open? (b : UInt8) : List (Option Char) × Option Started :=
  if b < 0x80 then ([some (Char.ofNat b.toNat)], none)
  else
    match lead? b with
    | some started => ([], some started)
    | none => ([none], none)

/-- The characters of a stream, `none` standing for a fault, from a point
where `started` has been read but not completed. -/
def decodeFrom : (started : Option Started) → List UInt8 → List (Option Char)
  | none, [] => []
  | some _, [] => [none]
  | none, b :: rest => (open? b).1 ++ decodeFrom (open? b).2 rest
  | some s, b :: rest =>
      if s.low ≤ b && b ≤ s.high then
        let value := s.value * 64 + (b.toNat - 0x80)
        match s.more with
        | 0 => some (Char.ofNat value) :: decodeFrom none rest
        | more + 1 => decodeFrom (some ⟨0x80, 0xbf, more, value⟩) rest
      else none :: (open? b).1 ++ decodeFrom (open? b).2 rest

/-- The characters of a stream, `none` standing for a fault. -/
def decode (bytes : List UInt8) : List (Option Char) := decodeFrom none bytes

/-- What stands for a fault in a text that was read lossily. -/
def replacement : Char := '\ufffd'

/-- The text of a stream, with the replacement character for faults. -/
def decodeLossy (bytes : List UInt8) : List Char :=
  (decode bytes).map (·.getD replacement)

/-- The members, if all are there. -/
def sequence? {α : Type} : List (Option α) → Option (List α)
  | [] => some []
  | none :: _ => none
  | some a :: rest => (sequence? rest).map (a :: ·)

/-- The text of a stream without faults. -/
def decode? (bytes : List UInt8) : Option (List Char) :=
  sequence? (decode bytes)

/-- The bytes of a text. -/
def encode (text : List Char) : List UInt8 :=
  text.flatMap String.utf8EncodeChar

-- ================================================= started characters

/-- No byte below 0x80 continues the character, and whatever bytes do
continue it, its value comes to 0x80 at least. -/
structure Started.IsWide (s : Started) : Prop where
  low : 0x80 ≤ s.low
  -- a value of 2 is enough where another byte follows: that makes it 0x80
  value : (if s.more = 0 then 0x80 else 2)
    ≤ s.value * 64 + (s.low.toNat - 0x80)

namespace Started.IsWide

variable {s : Started} {b : UInt8}

/-- An ASCII byte is below all bytes that go on with a character. -/
theorem lt_low (h : s.IsWide) (hb : b < 0x80) : b < s.low :=
  UInt8.lt_of_lt_of_le hb h.low

/-- The last byte completes a value of 0x80 at least. -/
theorem le_value (h : s.IsWide) (hb : s.low ≤ b) (hmore : s.more = 0) :
    0x80 ≤ s.value * 64 + (b.toNat - 0x80) := by
  have hvalue := h.value
  rw [if_pos hmore] at hvalue
  have := UInt8.le_iff_toNat_le.1 hb
  omega

/-- A byte that is not the last leaves a character of the same kind. -/
theorem next (h : s.IsWide) (hb : s.low ≤ b) {more : Nat}
    (hmore : s.more = more + 1) :
    IsWide ⟨0x80, 0xbf, more, s.value * 64 + (b.toNat - 0x80)⟩ := by
  have hvalue := h.value
  rw [if_neg (by omega)] at hvalue
  have := UInt8.le_iff_toNat_le.1 hb
  refine ⟨by simp, ?_⟩
  dsimp only
  split <;> omega

end Started.IsWide

/-- Only characters of several bytes are ever started. -/
theorem isWide_of_lead? {b : UInt8} {s : Started} (h : lead? b = some s) :
    s.IsWide := by
  simp only [lead?, Bool.and_eq_true, decide_eq_true_eq,
    UInt8.le_iff_toNat_le, UInt8.reduceToNat] at h
  repeat' split at h
  all_goals cases h
  all_goals refine ⟨by dsimp only; decide, ?_⟩
  all_goals simp only [UInt8.reduceToNat, Nat.reduceEqDiff, reduceIte]
  all_goals omega

/-- However a byte is taken, what it leaves started is of several bytes. -/
theorem isWide_of_open? {b : UInt8} {s : Started}
    (h : (open? b).2 = some s) : s.IsWide := by
  unfold open? at h
  split at h
  · cases h
  · cases hlead : lead? b with
    | none => rw [hlead] at h; cases h
    | some started =>
        rw [hlead] at h
        cases h
        exact isWide_of_lead? hlead

/-- An ASCII byte is a character by itself and starts nothing. -/
theorem open?_ascii {b : UInt8} (h : b < 0x80) :
    open? b = ([some (Char.ofNat b.toNat)], none) := by
  rw [open?, if_pos h]

-- ============================================================= one byte

/-- A byte breaks off the character that was started, or completes it, or
carries it on. -/
theorem decodeFrom_some_cons_cases (s : Started) (b : UInt8) :
    (∀ rest, decodeFrom (some s) (b :: rest)
        = none :: decodeFrom none (b :: rest))
      ∨ (s.low ≤ b ∧ s.more = 0
        ∧ ∀ rest, decodeFrom (some s) (b :: rest)
          = some (Char.ofNat (s.value * 64 + (b.toNat - 0x80)))
            :: decodeFrom none rest)
      ∨ ∃ more, s.low ≤ b ∧ s.more = more + 1
        ∧ ∀ rest, decodeFrom (some s) (b :: rest)
          = decodeFrom
            (some ⟨0x80, 0xbf, more, s.value * 64 + (b.toNat - 0x80)⟩)
            rest := by
  cases hrange : s.low ≤ b && b ≤ s.high with
  | false => exact .inl fun rest => by simp [decodeFrom, hrange]
  | true =>
      have hlow := of_decide_eq_true (Bool.and_eq_true_iff.1 hrange).1
      cases hmore : s.more with
      | zero =>
          refine .inr (.inl ⟨hlow, rfl, fun rest => ?_⟩)
          rw [decodeFrom, if_pos hrange, hmore]
      | succ more =>
          refine .inr (.inr ⟨more, hlow, rfl, fun rest => ?_⟩)
          rw [decodeFrom, if_pos hrange, hmore]

/-- Numbers that are no characters are not turned into a newline. -/
theorem eq_of_ofNat_eq_newline {n : Nat} (h : Char.ofNat n = '\n') :
    n = 0x0a := by
  by_cases hvalid : n.isValidChar
  · rw [Char.ofNat, dif_pos hvalid] at h
    exact congrArg Char.toNat h
  · rw [Char.ofNat, dif_neg hvalid] at h
    cases h

/-- A byte that starts a character gives a newline only if it is one. -/
theorem eq_of_newline_mem_open? {b : UInt8}
    (h : some '\n' ∈ (open? b).1) : b = 0x0a := by
  unfold open? at h
  split at h
  · rw [List.mem_singleton, Option.some.injEq] at h
    exact UInt8.toNat_inj.1 (eq_of_ofNat_eq_newline h.symm)
  · split at h <;> simp at h

-- ================================================================ laws

/-- A byte below 0x80 stands for itself and ends whatever was started. -/
theorem decodeFrom_append_cons {b : UInt8} (hb : b < 0x80)
    (started : Option Started) (hwide : ∀ s ∈ started, s.IsWide)
    (front rest : List UInt8) :
    decodeFrom started (front ++ b :: rest)
      = decodeFrom started front
        ++ some (Char.ofNat b.toNat) :: decodeFrom none rest := by
  induction front generalizing started with
  | nil =>
      cases started with
      | none => simp [decodeFrom, open?_ascii hb]
      | some s =>
          -- the byte breaks the character off as the end of all would
          have hlow := UInt8.not_le.2 ((hwide s rfl).lt_low hb)
          simp [decodeFrom, open?_ascii hb, hlow]
  | cons c front ih =>
      have hnone : decodeFrom none (c :: (front ++ b :: rest))
          = decodeFrom none (c :: front)
            ++ some (Char.ofNat b.toNat) :: decodeFrom none rest := by
        rw [decodeFrom, decodeFrom, List.append_assoc,
          ih (open? c).2 fun s hs => isWide_of_open? hs]
      cases started with
      | none => exact hnone
      | some s =>
          rw [List.cons_append]
          rcases decodeFrom_some_cons_cases s c with
            hbroken | ⟨-, -, hlast⟩ | ⟨more, hlow, hmore, hnext⟩
          · rw [hbroken, hbroken, hnone, List.cons_append]
          · rw [hlast, hlast, ih none (by simp), List.cons_append]
          · rw [hnext, hnext]
            refine ih _ ?_
            rintro next ⟨⟩
            exact (hwide s rfl).next hlow hmore

/-- Decoding commutes with a cut at a byte below 0x80. -/
theorem decodeLossy_append_cons {b : UInt8} (hb : b < 0x80)
    (front rest : List UInt8) :
    decodeLossy (front ++ b :: rest)
      = decodeLossy front
        ++ Char.ofNat b.toNat :: decodeLossy rest := by
  simp [decodeLossy, decode,
    decodeFrom_append_cons hb none (by simp)]

/-- A character that was started comes to something, complete or not. -/
theorem decodeFrom_some_ne_nil (s : Started) (bytes : List UInt8) :
    decodeFrom (some s) bytes ≠ [] := by
  induction bytes generalizing s with
  | nil => simp [decodeFrom]
  | cons b rest ih =>
      rcases decodeFrom_some_cons_cases s b with
        hbroken | ⟨-, -, hlast⟩ | ⟨more, -, -, hnext⟩
      · rw [hbroken]
        exact List.cons_ne_nil _ _
      · rw [hlast]
        exact List.cons_ne_nil _ _
      · rw [hnext]
        exact ih _

/-- No byte is dropped without something in its place. -/
theorem decodeLossy_eq_nil_iff {bytes : List UInt8} :
    decodeLossy bytes = [] ↔ bytes = [] := by
  rw [decodeLossy, List.map_eq_nil_iff, decode]
  cases bytes with
  | nil => simp [decodeFrom]
  | cons b rest =>
      simp only [decodeFrom, List.append_eq_nil_iff, reduceCtorEq,
        iff_false, not_and]
      unfold open?
      split
      · simp
      · split
        · exact fun _ => decodeFrom_some_ne_nil _ rest
        · simp

/-- Newlines come from newline bytes alone, in whatever state the decoder
is; so a stream may be cut at them before it is decoded. -/
theorem newline_mem_of_mem_decodeFrom (started : Option Started)
    (hwide : ∀ s ∈ started, s.IsWide) {bytes : List UInt8}
    (h : some '\n' ∈ decodeFrom started bytes) : 0x0a ∈ bytes := by
  induction bytes generalizing started with
  | nil => cases started <;> simp [decodeFrom] at h
  | cons b rest ih =>
      have hnone : some '\n' ∈ decodeFrom none (b :: rest) →
          0x0a ∈ b :: rest := by
        intro h
        rcases List.mem_append.1 h with h | h
        · exact List.mem_cons.2 (.inl (eq_of_newline_mem_open? h).symm)
        · exact List.mem_cons_of_mem _
            (ih (open? b).2 (fun s hs => isWide_of_open? hs) h)
      cases started with
      | none => exact hnone h
      | some s =>
          rcases decodeFrom_some_cons_cases s b with
            hbroken | ⟨hlow, hmore, hlast⟩ | ⟨more, hlow, hmore, hnext⟩
          · rw [hbroken] at h
            exact hnone (by simpa using h)
          · rw [hlast] at h
            rcases List.mem_cons.1 h with h | h
            · -- a character of several bytes is too high to be a newline
              have hvalue := (hwide s rfl).le_value hlow hmore
              have := eq_of_ofNat_eq_newline (Option.some.inj h).symm
              omega
            · exact List.mem_cons_of_mem _ (ih none (by simp) h)
          · rw [hnext] at h
            refine List.mem_cons_of_mem _ (ih _ ?_ h)
            rintro next ⟨⟩
            exact (hwide s rfl).next hlow hmore

/-- Newlines are read from newline bytes only. -/
theorem newline_mem_of_mem_decodeLossy {bytes : List UInt8}
    (h : '\n' ∈ decodeLossy bytes) : 0x0a ∈ bytes := by
  obtain ⟨unit, hunit, hnewline⟩ := List.mem_map.1 h
  cases unit with
  | none => cases hnewline
  | some c =>
      obtain rfl : c = '\n' := hnewline
      exact newline_mem_of_mem_decodeFrom none (by simp) hunit

end LinkOrder.Utf8
