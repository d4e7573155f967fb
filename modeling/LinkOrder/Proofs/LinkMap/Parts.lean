/-
The parts of a link map, said of its lines alone. Behind some lines the
part in force is the latest that any of them announces, and a line is
content of a part if that part is in force before the line and behind it:
a marker that does not move forward is content like any other line.

Parts only move forward (`rank_le_rank_after`), so a part that lies ahead
has no content yet (`contents_eq_nil`), and behind the marker of the
symbols all further lines are content of the symbols and none of another
part (`contents_append_of_symbols`, `contents_append_of_ne_symbols`).
-/
import LinkOrder.LinkMap.Scan

namespace LinkOrder.LinkMap

namespace Part

-- ================================================= the part in force

/-- The later of two parts. -/
def later (p q : Part) : Part := if p.rank < q.rank then q else p

/-- The part in force behind a line, given the one before it. -/
def after (p : Part) (line : List Char) : Part :=
  match announced? line with
  | some q => p.later q
  | none => p

/-- The part in force behind some lines: the latest that was announced. -/
def inForce (lines : List (List Char)) : Part :=
  lines.foldl after .preamble

/-- Lines are read one by one, so the last is what moves forward. -/
theorem inForce_concat (lines : List (List Char)) (line : List Char) :
    inForce (lines ++ [line]) = (inForce lines).after line := by
  unfold inForce
  rw [List.foldl_append]
  rfl

/-- A line never leads back. -/
theorem rank_le_rank_after (p : Part) (line : List Char) :
    p.rank ≤ (p.after line).rank := by
  unfold after later
  split
  · split
    · exact Nat.le_of_lt ‹_›
    · exact Nat.le_refl _
  · exact Nat.le_refl _

/-- Nothing lies behind the symbols. -/
@[simp] theorem after_symbols (line : List Char) :
    symbols.after line = symbols := by
  have hle := rank_le_rank_after symbols line
  cases h : symbols.after line <;> rw [h] at hle <;>
    first | rfl | exact absurd hle (by decide)

/-- What announces a part starts with a hash. -/
theorem after_of_not_mem {line : List Char} (h : '#' ∉ line) (p : Part) :
    p.after line = p := by
  have hnone : ∀ mark, '#' ∈ mark → ¬ Text.occurs mark line :=
    fun mark hmem hmark => h ((Text.occurs_iff.1 hmark).subset hmem)
  unfold after announced?
  rw [if_neg (hnone symbolsMarker (by decide)),
    if_neg (hnone sectionsMarker (by decide)),
    if_neg (hnone objectFilesMarker (by decide))]

/-- Only the sections and the symbols lie behind the object files. -/
theorem after_objectFiles {line : List Char}
    (hsections : ¬ sectionsMarker <:+: line)
    (hsymbols : ¬ symbolsMarker <:+: line) :
    objectFiles.after line = objectFiles := by
  unfold after announced?
  rw [if_neg (mt Text.occurs_iff.1 hsymbols),
    if_neg (mt Text.occurs_iff.1 hsections)]
  by_cases hself : Text.occurs objectFilesMarker line
  · rw [if_pos hself]
    rfl
  · rw [if_neg hself]

end Part

-- ============================================================ content

/-- The content lines of a part among some lines, `p` being the part in
force before them. -/
def contentsFrom (part p : Part) : List (List Char) → List (List Char)
  | [] => []
  | line :: rest =>
      if p = part ∧ p.after line = part then
        line :: contentsFrom part (p.after line) rest
      else contentsFrom part (p.after line) rest

/-- The content lines of a part. -/
def contents (part : Part) (lines : List (List Char)) :
    List (List Char) :=
  contentsFrom part .preamble lines

/-- Further lines add what is content of the part in force behind the
others. -/
theorem contentsFrom_append (part p : Part) (l k : List (List Char)) :
    contentsFrom part p (l ++ k)
      = contentsFrom part p l
        ++ contentsFrom part (l.foldl Part.after p) k := by
  induction l generalizing p with
  | nil => rfl
  | cons line rest ih =>
      rw [List.cons_append, contentsFrom, contentsFrom, ih,
        List.foldl_cons]
      split <;> rfl

/-- A line that moves forward is content of no part. -/
theorem contentsFrom_cons_of_advance {p : Part} {line : List Char}
    (h : p.after line ≠ p) (part : Part) (rest : List (List Char)) :
    contentsFrom part p (line :: rest)
      = contentsFrom part (p.after line) rest := by
  rw [contentsFrom, if_neg]
  intro hsame
  obtain ⟨hbefore, hbehind⟩ := hsame
  exact h (hbehind.trans hbefore.symm)

/-- Lines that do not move forward are content of the part in force, all
of them, and what follows is read from there. -/
theorem contentsFrom_append_of_stay {p : Part} {l : List (List Char)}
    (h : ∀ line ∈ l, p.after line = p) (part : Part)
    (k : List (List Char)) :
    contentsFrom part p (l ++ k)
      = (if p = part then l else []) ++ contentsFrom part p k := by
  induction l with
  | nil => simp
  | cons line rest ih =>
      have hline := h line List.mem_cons_self
      have hrest := ih fun l hl => h l (List.mem_cons_of_mem line hl)
      rw [List.cons_append, contentsFrom, hline, hrest]
      by_cases hpart : p = part
      · rw [if_pos ⟨hpart, hpart⟩, if_pos hpart, if_pos hpart]
        rfl
      · rw [if_neg fun hsame => hpart hsame.1, if_neg hpart, if_neg hpart]

/-- Content lines are lines, in the order in which they stand. -/
theorem contentsFrom_sublist (part p : Part) (lines : List (List Char)) :
    (contentsFrom part p lines).Sublist lines := by
  induction lines generalizing p with
  | nil => exact List.Sublist.refl []
  | cons line rest ih =>
      rw [contentsFrom]
      split
      · exact (ih _).cons_cons line
      · exact (ih _).cons line

/-- No content is made up. -/
theorem mem_of_mem_contents {part : Part} {lines : List (List Char)}
    {line : List Char} (h : line ∈ contents part lines) : line ∈ lines :=
  (contentsFrom_sublist part .preamble lines).subset h

/-- Further lines are read from the part that is in force. -/
theorem contents_append (part : Part) (l k : List (List Char)) :
    contents part (l ++ k)
      = contents part l ++ contentsFrom part (Part.inForce l) k :=
  contentsFrom_append part .preamble l k

/-- One more line is content of the part that is in force before it and
behind it, and of no other. -/
theorem contents_concat (part : Part) (lines : List (List Char))
    (line : List Char) :
    contents part (lines ++ [line])
      = contents part lines
        ++ if Part.inForce lines = part
              ∧ (Part.inForce lines).after line = part then [line]
            else [] := by
  rw [contents_append]
  rfl

/-- A line that moves forward adds no content. -/
theorem contents_concat_of_advance {lines : List (List Char)}
    {line : List Char}
    (h : (Part.inForce lines).after line ≠ Part.inForce lines)
    (part : Part) :
    contents part (lines ++ [line]) = contents part lines := by
  rw [contents_append, contentsFrom_cons_of_advance h, contentsFrom,
    List.append_nil]

/-- A line that does not move forward is content of the part in force. -/
theorem contents_concat_of_content {lines : List (List Char)}
    {line : List Char}
    (h : (Part.inForce lines).after line = Part.inForce lines) :
    contents (Part.inForce lines) (lines ++ [line])
      = contents (Part.inForce lines) lines ++ [line] := by
  rw [contents_concat, if_pos ⟨rfl, h⟩]

/-- Of other parts a line is no content. -/
theorem contents_concat_of_ne {part : Part} {lines : List (List Char)}
    (h : Part.inForce lines ≠ part) (line : List Char) :
    contents part (lines ++ [line]) = contents part lines := by
  rw [contents_concat, if_neg fun hpart => h hpart.1, List.append_nil]

-- ================================================== content and order

/-- The part in force behind some lines is at least that before them. -/
theorem rank_le_rank_foldl_after (p : Part) (lines : List (List Char)) :
    p.rank ≤ (lines.foldl Part.after p).rank := by
  induction lines generalizing p with
  | nil => exact Nat.le_refl _
  | cons line rest ih =>
      exact Nat.le_trans (Part.rank_le_rank_after p line) (ih _)

/-- A part that lies ahead has no content yet. -/
theorem contents_eq_nil {part : Part} {lines : List (List Char)}
    (h : (Part.inForce lines).rank < part.rank) :
    contents part lines = [] := by
  suffices key : ∀ p : Part, (lines.foldl Part.after p).rank < part.rank →
      contentsFrom part p lines = [] from key .preamble h
  clear h
  induction lines with
  | nil => intro p _; rfl
  | cons line rest ih =>
      intro p hlt
      rw [List.foldl_cons] at hlt
      rw [contentsFrom, if_neg, ih _ hlt]
      intro hinside
      obtain ⟨-, hpart⟩ := hinside
      have hle := rank_le_rank_foldl_after (p.after line) rest
      rw [hpart] at hle hlt
      exact absurd hlt (Nat.not_lt.2 hle)

/-- Once the symbols are in force, every line is content of theirs. -/
theorem contents_append_of_symbols {lines : List (List Char)}
    (h : Part.inForce lines = .symbols) (rest : List (List Char)) :
    contents .symbols (lines ++ rest) = contents .symbols lines ++ rest := by
  rw [contents_append, h]
  congr 1
  induction rest with
  | nil => rfl
  | cons line rest ih =>
      rw [contentsFrom, if_pos (by simp), Part.after_symbols, ih]

/-- Once the symbols are in force, no other part gets content. -/
theorem contents_append_of_ne_symbols {part : Part}
    {lines : List (List Char)} (h : Part.inForce lines = .symbols)
    (hpart : part ≠ .symbols) (rest : List (List Char)) :
    contents part (lines ++ rest) = contents part lines := by
  rw [contents_append, h]
  suffices key : contentsFrom part .symbols rest = [] by
    rw [key, List.append_nil]
  induction rest with
  | nil => rfl
  | cons line rest ih =>
      rw [contentsFrom, if_neg fun heq => hpart heq.1.symm,
        Part.after_symbols, ih]

end LinkOrder.LinkMap
