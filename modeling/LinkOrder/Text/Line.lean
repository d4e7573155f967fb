/-
Lines of a text, in the two ways in which a link map may arrive: whole,
as decoded text, and as a stream of bytes that is cut at its newlines
before anything is decoded. The two differ in what they take off the end
of a line: of a whole text a newline with at most one carriage return
before it, of a streamed line every carriage return and newline.
Main statements: a list may be taken by the pieces into which it is cut
(`induction_on_pieces`), and lines that are written one behind the other
are read back (`lines_flatMap`).
-/
import LinkOrder.Text.Blank
import LinkOrder.Text.Utf8

namespace LinkOrder.Text

/-- The list cut after each `mark`. The pieces join to the list again;
none is empty, and only the last may lack its mark. -/
def cutAfter {α : Type} [DecidableEq α] (mark : α) : List α → List (List α)
  | [] => []
  | a :: rest =>
      if a = mark then [a] :: cutAfter mark rest
      else
        match cutAfter mark rest with
        | [] => [[a]]
        | piece :: others => (a :: piece) :: others

/-- A piece without its newline and one carriage return before that. A
piece that ends in no newline keeps all it has. -/
def withoutLineEnd (piece : List Char) : List Char :=
  match piece.reverse with
  | '\n' :: '\r' :: rest => rest.reverse
  | '\n' :: rest => rest.reverse
  | _ => piece

/-- The lines of a whole text. -/
def lines (text : List Char) : List (List Char) :=
  (cutAfter '\n' text).map withoutLineEnd

/-- Whether the character can stand at the end of a streamed line. -/
def isLineEnd (c : Char) : Bool := c = '\n' || c = '\r'

/-- One streamed line: what its bytes decode to, without any line ends. -/
def streamedLine (bytes : List UInt8) : List Char :=
  dropEndWhile isLineEnd (Utf8.decodeLossy bytes)

/-- The lines of a stream of bytes, each decoded by itself. -/
def streamedLines (bytes : List UInt8) : List (List Char) :=
  (cutAfter 0x0a bytes).map streamedLine

-- ================================================================ laws

/-- A marked piece in front is cut off as one. -/
theorem cutAfter_append_cons {α : Type} [DecidableEq α] {mark : α}
    {piece : List α} (h : mark ∉ piece) (rest : List α) :
    cutAfter mark (piece ++ mark :: rest)
      = (piece ++ [mark]) :: cutAfter mark rest := by
  induction piece with
  | nil => simp [cutAfter]
  | cons a piece ih =>
      have ha : a ≠ mark := fun he => h (he ▸ List.mem_cons_self ..)
      have hp := ih fun hm => h (List.mem_cons_of_mem _ hm)
      simp [cutAfter, ha, hp]

/-- A list without a mark is left in one piece, if there is anything of
it. -/
theorem cutAfter_of_not_mem {α : Type} [DecidableEq α] {mark : α}
    {l : List α} (h : mark ∉ l) (hne : l ≠ []) : cutAfter mark l = [l] := by
  induction l with
  | nil => exact absurd rfl hne
  | cons a rest ih =>
      have ha : a ≠ mark := fun he => h (he ▸ List.mem_cons_self ..)
      cases rest with
      | nil => simp [cutAfter, ha]
      | cons b rest =>
          have hrest := ih (fun hm => h (List.mem_cons_of_mem _ hm))
            (List.cons_ne_nil _ _)
          rw [cutAfter, if_neg ha, hrest]

/-- Lists may be taken by their pieces: whatever holds of a list without
a mark, and of a marked piece in front of a list of which it holds, holds
of every list. -/
theorem induction_on_pieces {α : Type} [DecidableEq α] (mark : α)
    {motive : List α → Prop}
    (unmarked : ∀ l, mark ∉ l → motive l)
    (marked : ∀ piece rest, mark ∉ piece → motive rest →
      motive (piece ++ mark :: rest))
    (l : List α) : motive l := by
  by_cases h : mark ∈ l
  · obtain ⟨piece, rest, hl, hpiece⟩ := List.eq_append_cons_of_mem h
    have hlength : rest.length < l.length := by
      rw [hl, List.length_append, List.length_cons]
      omega
    rw [hl]
    exact marked piece rest hpiece
      (induction_on_pieces mark unmarked marked rest)
  · exact unmarked l h
termination_by l.length

/-- A piece has its mark at the end or nowhere. -/
theorem mark_at_end_of_mem_cutAfter {α : Type} [DecidableEq α] {mark : α}
    {l piece : List α} (h : piece ∈ cutAfter mark l) :
    mark ∉ piece ∨ ∃ front, mark ∉ front ∧ piece = front ++ [mark] := by
  induction l using induction_on_pieces mark with
  | unmarked l hl =>
      cases l with
      | nil => cases h
      | cons a rest =>
          rw [cutAfter_of_not_mem hl (List.cons_ne_nil _ _)] at h
          exact .inl (List.mem_singleton.1 h ▸ hl)
  | marked front rest hfront ih =>
      rw [cutAfter_append_cons hfront] at h
      rcases List.mem_cons.1 h with rfl | h
      · exact .inr ⟨front, hfront, rfl⟩
      · exact ih h

/-- Of a line that ends in no carriage return a newline is all that is
taken off. -/
theorem withoutLineEnd_newline {line : List Char}
    (h : line.getLast? ≠ some '\r') :
    withoutLineEnd (line ++ ['\n']) = line := by
  rcases List.eq_nil_or_concat line with rfl | ⟨front, c, rfl⟩
  · rfl
  · have hc : c ≠ '\r' := fun heq => h (by simp [heq])
    simp [withoutLineEnd, hc]

/-- Lines with a newline behind each are the lines of the text that they
make up. -/
theorem lines_flatMap {written : List (List Char)}
    (h : ∀ line ∈ written, '\n' ∉ line ∧ line.getLast? ≠ some '\r') :
    lines (written.flatMap fun line => line ++ ['\n']) = written := by
  induction written with
  | nil => rfl
  | cons line rest ih =>
      obtain ⟨hnewline, hreturn⟩ := h line List.mem_cons_self
      have hrest := ih fun l hl => h l (List.mem_cons_of_mem line hl)
      rw [List.flatMap_cons, List.append_assoc, List.singleton_append,
        lines, cutAfter_append_cons hnewline, List.map_cons,
        withoutLineEnd_newline hreturn]
      exact congrArg (List.cons line) hrest

end LinkOrder.Text
