/-
White space, and texts without it at their ends. "Blank" is the Unicode
property White_Space in full, not its ASCII part: numbers in a link map
are read after trimming, and a no-break space before one is trimmed too.
Main statements: what is dropped at an end is blank throughout, and a text
without blanks is its own trimmed form.
-/

namespace LinkOrder.Text

/-- The code points with the property White_Space, as ascending closed
ranges. -/
def blankRanges : List (Nat × Nat) :=
  [(0x9, 0xd), (0x20, 0x20), (0x85, 0x85), (0xa0, 0xa0), (0x1680, 0x1680),
    (0x2000, 0x200a), (0x2028, 0x2029), (0x202f, 0x202f), (0x205f, 0x205f),
    (0x3000, 0x3000)]

/-- Whether the character is white space. -/
def isBlank (c : Char) : Bool :=
  blankRanges.any fun (low, high) => low ≤ c.toNat && c.toNat ≤ high

/-- The text without the characters at its end that satisfy `p`. -/
def dropEndWhile (p : Char → Bool) (text : List Char) : List Char :=
  (text.reverse.dropWhile p).reverse

/-- The text without the blanks at its start. -/
def trimStart (text : List Char) : List Char := text.dropWhile isBlank

/-- The text without the blanks at either end. -/
def trim (text : List Char) : List Char :=
  dropEndWhile isBlank (trimStart text)

-- ============================================================ trimming

/-- A character to be kept at the end keeps everything in front of it. -/
theorem dropEndWhile_append_of_not {p : Char → Bool} {c : Char}
    (h : p c = false) (text : List Char) :
    dropEndWhile p (text ++ [c]) = text ++ [c] := by
  simp [dropEndWhile, h]

/-- Characters at the end are dropped one by one. -/
theorem dropEndWhile_append_of {p : Char → Bool} {c : Char}
    (h : p c = true) (text : List Char) :
    dropEndWhile p (text ++ [c]) = dropEndWhile p text := by
  simp [dropEndWhile, h]

/-- What is dropped depends on no more than the characters there are. -/
theorem dropEndWhile_congr {p q : Char → Bool} {text : List Char}
    (h : ∀ c ∈ text, p c = q c) :
    dropEndWhile p text = dropEndWhile q text := by
  have hdrop : ∀ l : List Char, (∀ c ∈ l, p c = q c) →
      l.dropWhile p = l.dropWhile q := by
    intro l hl
    induction l with
    | nil => rfl
    | cons c rest ih =>
        have hrest := ih fun d hd => hl d (List.mem_cons_of_mem _ hd)
        rw [List.dropWhile_cons, List.dropWhile_cons, hrest,
          hl c (List.mem_cons_self ..)]
  rw [dropEndWhile, hdrop text.reverse fun c hc => h c (List.mem_reverse.1 hc)]
  rfl

/-- Whatever is dropped satisfies the test. -/
theorem exists_append_dropEndWhile (p : Char → Bool) (text : List Char) :
    ∃ rest, text = dropEndWhile p text ++ rest ∧ ∀ c ∈ rest, p c = true := by
  refine ⟨(text.reverse.takeWhile p).reverse, ?_, ?_⟩
  · simp only [dropEndWhile, ← List.reverse_append,
      List.takeWhile_append_dropWhile, List.reverse_reverse]
  · intro c hc
    have hall := List.all_takeWhile (p := p) (l := text.reverse)
    exact List.all_eq_true.1 hall c (List.mem_reverse.1 hc)

/-- A text in which no blank stands is its own trimmed form. -/
theorem trim_eq_self {text : List Char}
    (h : ∀ c ∈ text, isBlank c = false) : trim text = text := by
  have hstart : trimStart text = text := by
    cases text with
    | nil => rfl
    | cons c rest => simp [trimStart, h c (List.mem_cons_self ..)]
  have hend : dropEndWhile isBlank text = text := by
    rcases List.eq_nil_or_concat text with rfl | ⟨start, c, rfl⟩
    · rfl
    · simpa using dropEndWhile_append_of_not (h c (by simp)) start
  rw [trim, hstart, hend]

end LinkOrder.Text
