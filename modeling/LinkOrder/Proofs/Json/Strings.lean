/-
Strings of JSON, read and skipped. What is skipped is any string that is
well written, up to its closing quote (`skipString_rawText`,
`rawText_of_skipString`). What is read has a meaning besides, and reading
gives that meaning and nothing where there is none
(`toOption_readString`, `rawText_of_readString`): the two differ in lone
surrogates alone.
-/
import LinkOrder.Proofs.Json.Grammar

namespace LinkOrder.Json

variable {text rest after : List Char} {c letter : Char} {value : Nat}

-- ============================================================= escapes

/-- Strings are spelled piece by piece. -/
theorem rawText_cons (piece : Piece) (more : List Piece) :
    rawText (piece :: more) = piece.text ++ rawText more := rfl

/-- The letter of an escape with digits is none of the short ones. -/
theorem ne_of_shortEscape? (h : shortEscape? letter = some c) :
    letter ≠ 'u' := by
  rintro rfl
  cases h

/-- Four digits are read as the number that they make. -/
theorem readFourDigits_eq {a b c d : Char}
    (h : fourDigits? a b c d = some value) (rest : List Char) :
    readFourDigits (a :: b :: c :: d :: rest) = .ok (value, rest) := by
  rw [readFourDigits, h]

/-- What was read were four digits. -/
theorem exists_of_readFourDigits
    (h : readFourDigits text = .ok (value, rest)) :
    ∃ a b c d, text = a :: b :: c :: d :: rest
      ∧ fourDigits? a b c d = some value := by
  unfold readFourDigits at h
  split at h
  · split at h
    · next hvalue =>
        cases h
        exact ⟨_, _, _, _, rfl, hvalue⟩
    · cases h
  · split at h <;> cases h

/-- Every piece but a plain one is skipped behind its backslash. -/
theorem skipEscape_short (h : shortEscape? letter = some c)
    (rest : List Char) : skipEscape (letter :: rest) = .ok rest := by
  unfold skipEscape
  split
  · next heq => cases heq
  · next heq =>
      cases heq
      exact absurd rfl (ne_of_shortEscape? h)
  · next heq =>
      cases heq
      rw [h]

/-- An escape with digits is skipped whatever they say. -/
theorem skipEscape_code {a b c d : Char}
    (h : fourDigits? a b c d = some value) (rest : List Char) :
    skipEscape ('u' :: a :: b :: c :: d :: rest) = .ok rest := by
  rw [skipEscape, readFourDigits_eq h]
  rfl

/-- What was skipped is a piece of some string. -/
theorem exists_piece_of_skipEscape (h : skipEscape text = .ok rest) :
    ∃ piece : Piece, '\\' :: text = piece.text ++ rest := by
  unfold skipEscape at h
  split at h
  · cases h
  · cases hread : readFourDigits _ with
    | error fault =>
        rw [hread] at h
        cases h
    | ok result =>
        rw [hread] at h
        cases h
        obtain ⟨a, b, c, d, rfl, hvalue⟩ := exists_of_readFourDigits hread
        exact ⟨.code (a, b, c, d) _ hvalue, rfl⟩
  · split at h
    · next hshort =>
        cases h
        exact ⟨.short _ _ hshort, rfl⟩
    · cases h

-- ============================================================ skipping

theorem skipString_quote (rest : List Char) :
    skipString ('"' :: rest) = .ok rest := by
  rw [skipString]

theorem skipString_plain (h : c ≠ '"' ∧ c ≠ '\\' ∧ ¬ c < ' ')
    (rest : List Char) : skipString (c :: rest) = skipString rest := by
  rw [skipString.eq_def]
  split
  · next heq => cases heq
  · next heq =>
      cases heq
      exact absurd rfl h.1
  · next heq =>
      cases heq
      exact absurd rfl h.2.1
  · next heq =>
      cases heq
      exact if_neg h.2.2

theorem skipString_escape (h : skipEscape text = .ok rest) :
    skipString ('\\' :: text) = skipString rest := by
  rw [skipString]
  split
  · next heq =>
      rw [h] at heq
      cases heq
  · next heq =>
      rw [h] at heq
      cases heq
      rfl

/-- A string is skipped up to its closing quote. -/
theorem skipString_rawText (pieces : List Piece) (rest : List Char) :
    skipString (rawText pieces ++ '"' :: rest) = .ok rest := by
  induction pieces with
  | nil => exact skipString_quote rest
  | cons piece more ih =>
      rw [rawText_cons, List.append_assoc]
      cases piece with
      | plain c h => rw [← ih]; exact skipString_plain h _
      | short letter c h =>
          rw [← ih]
          exact skipString_escape (skipEscape_short h _)
      | code digits value h =>
          rw [← ih]
          exact skipString_escape (skipEscape_code h _)

/-- Whatever is skipped is a string. -/
theorem rawText_of_skipString (h : skipString text = .ok rest) :
    ∃ pieces, text = rawText pieces ++ '"' :: rest := by
  fun_induction skipString text with
  | case1 => cases h
  | case2 =>
      cases h
      exact ⟨[], rfl⟩
  | case3 => cases h
  | case4 tail after hescape _ ih =>
      obtain ⟨pieces, rfl⟩ := ih h
      obtain ⟨piece, hpiece⟩ := exists_piece_of_skipEscape hescape
      refine ⟨piece :: pieces, ?_⟩
      rw [hpiece, rawText_cons, List.append_assoc]
  | case5 => cases h
  | case6 c tail hquote hslash hplain ih =>
      obtain ⟨pieces, rfl⟩ := ih h
      refine ⟨.plain c ⟨?_, ?_, hplain⟩ :: pieces, rfl⟩
      · exact fun heq => hquote heq
      · exact fun heq => hslash heq

-- ============================================================= reading

/-- A character in front of what was read. -/
def withFirst (c : Char) (result : List Char × List Char) :
    List Char × List Char :=
  (c :: result.1, result.2)

theorem readString_plain (h : c ≠ '"' ∧ c ≠ '\\' ∧ ¬ c < ' ')
    (rest : List Char) :
    (readString (c :: rest)).toOption
      = (readString rest).toOption.map (withFirst c) := by
  rw [readString.eq_def]
  split
  · next heq => cases heq
  · next heq =>
      cases heq
      exact absurd rfl h.1
  · next heq =>
      cases heq
      exact absurd rfl h.2.1
  · next heq =>
      cases heq
      rw [if_neg h.2.2]
      cases readString rest with
      | error fault => rfl
      | ok result => rfl

theorem readString_escape (h : readEscape text = .ok (c, rest)) :
    (readString ('\\' :: text)).toOption
      = (readString rest).toOption.map (withFirst c) := by
  rw [readString]
  split
  · next heq =>
      rw [h] at heq
      cases heq
  · next heq =>
      rw [h] at heq
      cases heq
      cases readString rest with
      | error fault => rfl
      | ok result => rfl

/-- A string with an escape that says nothing is refused. Where does not
matter here. -/
theorem readString_refused (fault : Fault)
    (h : readEscape text = .error fault) :
    (readString ('\\' :: text)).toOption = none := by
  rw [readString]
  split
  · rfl
  · next heq =>
      rw [h] at heq
      cases heq

/-- A short escape stands for its character. -/
theorem readEscape_short (h : shortEscape? letter = some c)
    (rest : List Char) : readEscape (letter :: rest) = .ok (c, rest) := by
  unfold readEscape
  split
  · next heq => cases heq
  · next heq =>
      cases heq
      exact absurd rfl (ne_of_shortEscape? h)
  · next heq =>
      cases heq
      rw [h]

/-- An escape with digits stands for the character of that number, unless
this is half of a pair: then the other half has to follow. -/
theorem readEscape_code {a b c d : Char}
    (h : fourDigits? a b c d = some value) (rest : List Char) :
    readEscape ('u' :: a :: b :: c :: d :: rest)
      = if isLowSurrogate value then .error (.here .loneSurrogate rest)
        else if isHighSurrogate value then readLowSurrogate value rest
        else .ok (Char.ofNat value, rest) := by
  rw [readEscape, readUnicodeEscape, readFourDigits_eq h]
  rfl

/-- Behind a high surrogate only a low one is read. -/
theorem readLowSurrogate_code {a b c d : Char} {high : Nat}
    (h : fourDigits? a b c d = some value) (rest : List Char) :
    readLowSurrogate high ('\\' :: 'u' :: a :: b :: c :: d :: rest)
      = if isLowSurrogate value then .ok (paired high value, rest)
        else .error (.here .loneSurrogate rest) := by
  rw [readLowSurrogate, readFourDigits_eq h]
  rfl

/-- Behind a high surrogate nothing else is read. -/
theorem readLowSurrogate_refused {pieces : List Piece} (high : Nat)
    (h : ∀ digits low hlow more, pieces = .code digits low hlow :: more
      → False) (rest : List Char) :
    ∃ fault, readLowSurrogate high (rawText pieces ++ '"' :: rest)
      = .error fault := by
  cases pieces with
  | nil => exact ⟨_, rfl⟩
  | cons piece more =>
      rw [rawText_cons, List.append_assoc]
      generalize rawText more ++ '"' :: rest = tail
      -- only a code in the low range may follow
      cases piece with
      | plain c hplain =>
          refine ⟨.next .surrogateUnpaired (c :: tail), ?_⟩
          show readLowSurrogate high (c :: tail) = _
          unfold readLowSurrogate
          split
          · next heq => cases heq
          · next heq =>
              cases heq
              exact absurd rfl hplain.2.1
          · next heq =>
              cases heq
              rfl
      | short letter c hshort =>
          refine ⟨.next .surrogateUnpaired (letter :: tail), ?_⟩
          show readLowSurrogate high ('\\' :: letter :: tail) = _
          rw [readLowSurrogate]
          exact ne_of_shortEscape? hshort
      | code digits low hlow => exact absurd rfl (h digits low hlow more)

/-- Reading a string gives what it says, and fails where it says
nothing. -/
theorem toOption_readString (pieces : List Piece) (rest : List Char) :
    (readString (rawText pieces ++ '"' :: rest)).toOption
      = (meaning? pieces).map (·, rest) := by
  have hfirst : ∀ (c : Char) (more : List Piece),
      ((meaning? more).map (·, rest)).map (withFirst c)
        = ((meaning? more).map (c :: ·)).map (·, rest) := by
    intro c more
    rw [Option.map_map, Option.map_map]
    rfl
  fun_induction meaning? pieces with
  | case1 =>
      show (readString ('"' :: rest)).toOption = _
      rw [readString]
      rfl
  | case2 c h more ih =>
      rw [← hfirst, ← ih]
      exact readString_plain h _
  | case3 letter c h more ih =>
      rw [← hfirst, ← ih]
      exact readString_escape (readEscape_short h _)
  | case4 digits value h more hlow =>
      -- a low surrogate without a high one
      obtain ⟨a, b, c, d⟩ := digits
      exact readString_refused _
        ((readEscape_code h _).trans (if_pos hlow))
  | case5 digits value h hlow hhigh digits' low hlow' more hpair ih =>
      -- a pair
      obtain ⟨a, b, c, d⟩ := digits
      obtain ⟨a', b', c', d'⟩ := digits'
      rw [← hfirst, ← ih]
      refine readString_escape ?_
      refine (readEscape_code h _).trans ?_
      rw [if_neg hlow, if_pos hhigh]
      exact (readLowSurrogate_code hlow' _).trans (if_pos hpair)
  | case6 digits value h hlow hhigh digits' low hlow' more hpair =>
      obtain ⟨a, b, c, d⟩ := digits
      obtain ⟨a', b', c', d'⟩ := digits'
      refine readString_refused
        (.here .loneSurrogate (rawText more ++ '"' :: rest))
        ((readEscape_code h _).trans ?_)
      rw [if_neg hlow, if_pos hhigh]
      exact (readLowSurrogate_code hlow' _).trans (if_neg hpair)
  | case7 digits value h more hlow hhigh hother =>
      -- a high surrogate, and no four digits behind it
      obtain ⟨a, b, c, d⟩ := digits
      obtain ⟨fault, hfault⟩ := readLowSurrogate_refused value hother rest
      refine readString_refused fault ((readEscape_code h _).trans ?_)
      rw [if_neg hlow, if_pos hhigh]
      exact hfault
  | case8 digits value h more hlow hhigh ih =>
      obtain ⟨a, b, c, d⟩ := digits
      rw [← hfirst, ← ih]
      refine readString_escape ?_
      refine (readEscape_code h _).trans ?_
      rw [if_neg hlow, if_neg hhigh]
      rfl

/-- What can be read as an escape can be skipped as one, or as two if it
was a pair. -/
theorem skipString_of_readEscape (h : readEscape text = .ok (c, rest)) :
    skipString ('\\' :: text) = skipString rest := by
  unfold readEscape at h
  split at h
  · cases h
  · next digits =>
      unfold readUnicodeEscape at h
      split at h
      · cases h
      next value after hread =>
      obtain ⟨a, b, c, d, rfl, hvalue⟩ := exists_of_readFourDigits hread
      rw [skipString_escape (skipEscape_code hvalue after)]
      split at h
      · cases h
      split at h
      · unfold readLowSurrogate at h
        split at h
        · cases h
        · split at h
          · cases h
          · split at h
            · cases h
            next low final hread' =>
            obtain ⟨a, b, c, d, rfl, hlow⟩ := exists_of_readFourDigits hread'
            rw [skipString_escape (skipEscape_code hlow final)]
            split at h
            · simp only [Except.ok.injEq, Prod.mk.injEq] at h
              rw [h.2]
            · cases h
          · cases h
        · cases h
      · cases h
        rfl
  · split at h
    · next hshort =>
        cases h
        exact skipString_escape (skipEscape_short hshort rest)
    · cases h

/-- What is read could be skipped as well. -/
theorem skipString_of_readString {said : List Char}
    (h : readString text = .ok (said, rest)) :
    skipString text = .ok rest := by
  fun_induction readString text generalizing said with
  | case1 => cases h
  | case2 =>
      cases h
      exact skipString_quote rest
  | case3 => cases h
  | case4 => cases h
  | case5 tail c after hescape _ more final hmore ih =>
      cases h
      rw [skipString_of_readEscape hescape]
      exact ih hmore
  | case6 => cases h
  | case7 => cases h
  | case8 c tail hquote hslash hplain more final hmore ih =>
      cases h
      rw [skipString_plain ⟨hquote, hslash, hplain⟩]
      exact ih hmore

/-- Whatever is read is a string, and what it says. -/
theorem rawText_of_readString {said : List Char}
    (h : readString text = .ok (said, rest)) :
    ∃ pieces, text = rawText pieces ++ '"' :: rest
      ∧ meaning? pieces = some said := by
  obtain ⟨pieces, rfl⟩ :=
    rawText_of_skipString (skipString_of_readString h)
  refine ⟨pieces, rfl, ?_⟩
  have hread := toOption_readString pieces rest
  rw [h] at hread
  cases hsaid : meaning? pieces with
  | none =>
      rw [hsaid] at hread
      cases hread
  | some found =>
      rw [hsaid] at hread
      cases hread
      rfl

end LinkOrder.Json
