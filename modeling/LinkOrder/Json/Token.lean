/-
The small pieces of JSON: blanks, words and strings. Each is read from the
text that is left, and gives a value with the text left after it, or a
fault. Strings come in two strengths: those that are read must pair their
surrogates, those that are skipped need not. A string leaves less text
than it was read from, which is what lets the readers above loop.
-/
import LinkOrder.Json.Fault
import LinkOrder.Numeral.Unsigned

namespace LinkOrder.Json

/-- What reading a value of a type gives: the value and the text that is
left, or a fault. -/
abbrev Result (α : Type) := Except Fault (α × List Char)

/-- The blanks between the marks of JSON. -/
def isSpace (c : Char) : Bool :=
  c = ' ' || c = '\n' || c = '\t' || c = '\r'

/-- The text behind the blanks. -/
def skipSpace (text : List Char) : List Char := text.dropWhile isSpace

/-- Spaces may be missing. -/
theorem skipSpace_length_le (text : List Char) :
    (skipSpace text).length ≤ text.length :=
  (List.dropWhile_sublist _).length_le

/-- Whatever stands behind the spaces is itself part of the text, so less
than the text is left behind it. -/
theorem skipSpace_cons_length_lt {text rest : List Char} {c : Char}
    (h : skipSpace text = c :: rest) : rest.length < text.length := by
  have := skipSpace_length_le text
  rw [h] at this
  exact Nat.lt_of_succ_le this

/-- The rest of a word of which the first letter has been read. -/
def readWord : (letters text : List Char) → Except Fault (List Char)
  | [], text => .ok text
  | _ :: _, [] => .error (.here .valueMissing [])
  | l :: letters, c :: rest =>
      if l = c then readWord letters rest
      else .error (.next .expectedWord (c :: rest))

/-- The first letter of a word is taken by the caller, and these are the
others. -/
theorem readWord_length_le {letters text rest : List Char}
    (h : readWord letters text = .ok rest) : rest.length ≤ text.length := by
  induction letters generalizing text with
  | nil => cases h; exact Nat.le_refl _
  | cons l letters ih =>
      cases text with
      | nil => cases h
      | cons c text =>
          unfold readWord at h
          split at h
          · exact Nat.le_succ_of_le (ih h)
          · cases h

-- ============================================================= escapes

/-- The character that a letter stands for behind a backslash. -/
def shortEscape? (c : Char) : Option Char :=
  match c with
  | '"' => some '"'
  | '\\' => some '\\'
  | '/' => some '/'
  | 'b' => some '\x08'
  | 'f' => some '\x0c'
  | 'n' => some '\n'
  | 'r' => some '\r'
  | 't' => some '\t'
  | _ => none

/-- The value of four hexadecimal digits. -/
def fourDigits? (a b c d : Char) : Option Nat :=
  match Numeral.hexDigit? a, Numeral.hexDigit? b, Numeral.hexDigit? c,
    Numeral.hexDigit? d with
  | some a, some b, some c, some d =>
      some (((a * 16 + b) * 16 + c) * 16 + d)
  | _, _, _, _ => none

/-- The four digits of a `\u` escape. Four bytes are taken before they
are looked at, so a fault stands behind them. -/
def readFourDigits (text : List Char) : Result Nat :=
  match text with
  | a :: b :: c :: d :: rest =>
      match fourDigits? a b c d with
      | some value => .ok (value, rest)
      | none => .error (.placed .invalidEscape (width text - 4))
  | _ =>
      if width text < 4 then .error (.here .stringUnclosed [])
      else .error (.placed .invalidEscape (width text - 4))

/-- A high surrogate's lower half, and the character of the two. -/
def readLowSurrogate (high : Nat) (text : List Char) : Result Char :=
  match text with
  | [] => .error (.here .stringUnclosed [])
  | '\\' :: rest =>
      match rest with
      | [] => .error (.here .stringUnclosed [])
      | 'u' :: digits =>
          match readFourDigits digits with
          | .error fault => .error fault
          | .ok (low, rest) =>
              if 0xdc00 ≤ low && low ≤ 0xdfff then
                .ok (Char.ofNat
                  ((high - 0xd800) * 1024 + (low - 0xdc00) + 0x10000), rest)
              else .error (.here .loneSurrogate rest)
      | c :: rest => .error (.next .surrogateUnpaired (c :: rest))
  | c :: rest => .error (.next .surrogateUnpaired (c :: rest))

/-- The character of a `\u` escape, or of a pair of them. -/
def readUnicodeEscape (text : List Char) : Result Char :=
  match readFourDigits text with
  | .error fault => .error fault
  | .ok (value, rest) =>
      if 0xdc00 ≤ value && value ≤ 0xdfff then
        .error (.here .loneSurrogate rest)
      else if 0xd800 ≤ value && value ≤ 0xdbff then
        readLowSurrogate value rest
      else .ok (Char.ofNat value, rest)

/-- The character that stands behind a backslash. -/
def readEscape (text : List Char) : Result Char :=
  match text with
  | [] => .error (.here .stringUnclosed [])
  | 'u' :: rest => readUnicodeEscape rest
  | c :: rest =>
      match shortEscape? c with
      | some value => .ok (value, rest)
      | none => .error (.next .invalidEscape (c :: rest))

/-- The text behind an escape whose character does not matter. -/
def skipEscape (text : List Char) : Except Fault (List Char) :=
  match text with
  | [] => .error (.here .stringUnclosed [])
  | 'u' :: rest => (readFourDigits rest).map Prod.snd
  | c :: rest =>
      match shortEscape? c with
      | some _ => .ok rest
      | none => .error (.next .invalidEscape (c :: rest))

/-- Four digits are taken, of which one is enough here. -/
theorem readFourDigits_length_lt {text rest : List Char} {value : Nat}
    (h : readFourDigits text = .ok (value, rest)) :
    rest.length < text.length := by
  unfold readFourDigits at h
  split at h
  · split at h
    · cases h; simp only [List.length_cons]; omega
    · cases h
  · split at h <;> cases h

/-- The second half of a pair is an escape of its own. -/
theorem readLowSurrogate_length_lt {text rest : List Char} {high : Nat}
    {c : Char} (h : readLowSurrogate high text = .ok (c, rest)) :
    rest.length < text.length := by
  unfold readLowSurrogate at h
  split at h
  · cases h
  · split at h
    · cases h
    · split at h
      · cases h
      · next hd =>
          have := readFourDigits_length_lt hd
          split at h
          · simp only [Except.ok.injEq, Prod.mk.injEq] at h
            obtain ⟨-, rfl⟩ := h
            simp only [List.length_cons]
            omega
          · cases h
    · cases h
  · cases h

/-- Every escape has a letter that tells its kind. -/
theorem readEscape_length_lt {text rest : List Char} {c : Char}
    (h : readEscape text = .ok (c, rest)) :
    rest.length < text.length := by
  unfold readEscape at h
  split at h
  · cases h
  · unfold readUnicodeEscape at h
    split at h
    · cases h
    · next hd =>
        have := readFourDigits_length_lt hd
        split at h
        · cases h
        · split at h
          · have := readLowSurrogate_length_lt h
            simp only [List.length_cons]; omega
          · cases h; simp only [List.length_cons]; omega
  · split at h
    · cases h; simp
    · cases h

/-- As `readEscape_length_lt`, for an escape of which the meaning does not
matter. -/
theorem skipEscape_length_lt {text rest : List Char}
    (h : skipEscape text = .ok rest) : rest.length < text.length := by
  unfold skipEscape at h
  split at h
  · cases h
  · cases hd : readFourDigits _ with
    | error fault => rw [hd] at h; cases h
    | ok halves =>
        rw [hd] at h
        cases h
        have := readFourDigits_length_lt hd
        simp only [List.length_cons]; omega
  · split at h
    · cases h; simp
    · cases h

-- ============================================================= strings

/-- A string whose opening quote has been read. -/
def readString (text : List Char) : Result (List Char) :=
  match text with
  | [] => .error (.here .stringUnclosed [])
  | '"' :: rest => .ok ([], rest)
  | '\\' :: rest =>
      match h : readEscape rest with
      | .error fault => .error fault
      | .ok (c, after) =>
          have := readEscape_length_lt h
          match readString after with
          | .error fault => .error fault
          | .ok (more, rest) => .ok (c :: more, rest)
  | c :: rest =>
      if c < ' ' then .error (.next .controlCharacter (c :: rest))
      else
        match readString rest with
        | .error fault => .error fault
        | .ok (more, rest) => .ok (c :: more, rest)
termination_by text.length

/-- A string ends with a quote, which is taken. -/
theorem readString_length_lt {text rest value : List Char}
    (h : readString text = .ok (value, rest)) :
    rest.length < text.length := by
  fun_induction readString text generalizing value with
  | case1 => cases h
  | case2 => cases h; simp
  | case3 => cases h
  | case4 => cases h
  | case5 tail c after hesc hlt more final hmore ih =>
      cases h
      have := ih hmore
      simp only [List.length_cons]
      omega
  | case6 => cases h
  | case7 => cases h
  | case8 c tail _ _ _ more final hmore ih =>
      cases h
      have := ih hmore
      simp only [List.length_cons]
      omega

/-- The text behind a string whose opening quote has been read and whose
contents do not matter. -/
def skipString (text : List Char) : Except Fault (List Char) :=
  match text with
  | [] => .error (.here .stringUnclosed [])
  | '"' :: rest => .ok rest
  | '\\' :: rest =>
      match h : skipEscape rest with
      | .error fault => .error fault
      | .ok after =>
          have := skipEscape_length_lt h
          skipString after
  | c :: rest =>
      if c < ' ' then .error (.here .controlCharacter (c :: rest))
      else skipString rest
termination_by text.length

/-- As `readString_length_lt`, for a string that is passed over. -/
theorem skipString_length_lt {text rest : List Char}
    (h : skipString text = .ok rest) : rest.length < text.length := by
  fun_induction skipString text with
  | case1 => cases h
  | case2 => cases h; simp
  | case3 => cases h
  | case4 tail after hesc hlt ih =>
      have := ih h
      simp only [List.length_cons]
      omega
  | case5 => cases h
  | case6 c tail _ _ _ ih =>
      have := ih h
      simp only [List.length_cons]
      omega

end LinkOrder.Json
