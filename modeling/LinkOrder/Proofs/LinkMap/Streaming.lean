/-
The two ways in which a link map may arrive agree. As a stream of bytes it
is cut at its newlines and each line is decoded by itself; as a whole it is
decoded first. Decoding and cutting commute (`cutAfter_decodeLossy`): a
newline byte ends whatever character was started before it, whole or not,
and no other byte makes a newline. So both ways meet the same pieces, and
differ only in what they take off the ends of them.

The end of a whole line is a newline and one carriage return before it; a
streamed line loses every carriage return at its end. The streamed lines
are therefore the whole ones without the returns that these end in
(`streamedLines_eq`), and are the same if and only if no whole line ends
in one (`streamedLines_eq_lines_iff`).
-/
import LinkOrder.LinkMap.Scan
import LinkOrder.Proofs.Storage.Telling
import Mathlib.Data.List.DropRight

namespace LinkOrder

namespace Text

-- ======================================================= single pieces

/-- Whether the character is a carriage return. -/
def isReturn (c : Char) : Bool := c = '\r'

/-- The end of a line that holds no newline is its carriage returns. -/
theorem dropEndWhile_isLineEnd {text : List Char} (h : '\n' ∉ text) :
    dropEndWhile isLineEnd text = dropEndWhile isReturn text := by
  refine dropEndWhile_congr fun c hc => ?_
  have hne : c ≠ '\n' := fun heq => h (heq ▸ hc)
  simp [isLineEnd, isReturn, hne]

/-- A text that does not end in a newline is no marked piece. -/
theorem withoutLineEnd_of_not_mem {piece : List Char} (h : '\n' ∉ piece) :
    withoutLineEnd piece = piece := by
  rcases List.eq_nil_or_concat piece with rfl | ⟨front, c, rfl⟩
  · rfl
  · have hne : c ≠ '\n' := fun heq => h (by simp [heq])
    simp [withoutLineEnd, hne]

/-- What the end of a whole line takes off in front of its newline is a
carriage return, if anything. -/
theorem dropEndWhile_withoutLineEnd (front : List Char) :
    dropEndWhile isReturn (withoutLineEnd (front ++ ['\n']))
      = dropEndWhile isReturn front := by
  rcases List.eq_nil_or_concat front with rfl | ⟨start, c, rfl⟩
  · rfl
  · by_cases hc : c = '\r'
    · subst hc
      rw [List.concat_eq_append, dropEndWhile_append_of (by decide)]
      simp [withoutLineEnd]
    · simp [withoutLineEnd, hc]

/-- Of every piece of a text a streamed line keeps what the whole one
does, less the carriage returns at the end of that. -/
theorem dropEndWhile_isLineEnd_of_mem {text piece : List Char}
    (h : piece ∈ cutAfter '\n' text) :
    dropEndWhile isLineEnd piece
      = dropEndWhile isReturn (withoutLineEnd piece) := by
  rcases mark_at_end_of_mem_cutAfter h with hpiece | ⟨front, hfront, rfl⟩
  · rw [withoutLineEnd_of_not_mem hpiece, dropEndWhile_isLineEnd hpiece]
  · rw [dropEndWhile_append_of (by decide), dropEndWhile_withoutLineEnd,
      dropEndWhile_isLineEnd hfront]

/-- A line is left as it is exactly if it does not end in a return. -/
theorem dropEndWhile_isReturn_eq_self_iff {line : List Char} :
    dropEndWhile isReturn line = line ↔ line.getLast? ≠ some '\r' := by
  show List.rdropWhile isReturn line = line ↔ _
  rw [List.rdropWhile_eq_self_iff]
  rcases List.eq_nil_or_concat line with rfl | ⟨front, c, rfl⟩
  · simp
  · simp [isReturn]

-- ========================================================= whole texts

/-- Cutting at newlines commutes with decoding, whatever the bytes. -/
theorem cutAfter_decodeLossy (bytes : List UInt8) :
    cutAfter '\n' (Utf8.decodeLossy bytes)
      = (cutAfter 0x0a bytes).map Utf8.decodeLossy := by
  have hnewline : ∀ {bytes : List UInt8}, 0x0a ∉ bytes →
      '\n' ∉ Utf8.decodeLossy bytes :=
    fun h hmem => h (Utf8.newline_mem_of_mem_decodeLossy hmem)
  induction bytes using induction_on_pieces (0x0a : UInt8) with
  | unmarked bytes h =>
      by_cases hnil : bytes = []
      · subst hnil
        rfl
      · have hne := mt Utf8.decodeLossy_eq_nil_iff.1 hnil
        rw [cutAfter_of_not_mem h hnil,
          cutAfter_of_not_mem (hnewline h) hne]
        rfl
  | marked piece rest h ih =>
      have hpiece : Utf8.decodeLossy (piece ++ [0x0a])
          = Utf8.decodeLossy piece ++ ['\n'] :=
        Utf8.decodeLossy_append_cons (by decide) piece []
      rw [Utf8.decodeLossy_append_cons (by decide), cutAfter_append_cons h,
        List.map_cons, hpiece, ← ih]
      exact cutAfter_append_cons (hnewline h) _

/-- Streamed lines are the whole ones without the carriage returns that
these end in. -/
theorem streamedLines_eq (bytes : List UInt8) :
    streamedLines bytes
      = (lines (Utf8.decodeLossy bytes)).map (dropEndWhile isReturn) := by
  have hpieces : ∀ piece ∈ cutAfter '\n' (Utf8.decodeLossy bytes),
      dropEndWhile isLineEnd piece
        = dropEndWhile isReturn (withoutLineEnd piece) :=
    fun piece h => dropEndWhile_isLineEnd_of_mem h
  calc streamedLines bytes
      = ((cutAfter 0x0a bytes).map Utf8.decodeLossy).map
          (dropEndWhile isLineEnd) := by
        rw [List.map_map]
        rfl
    _ = (cutAfter '\n' (Utf8.decodeLossy bytes)).map
          (dropEndWhile isReturn ∘ withoutLineEnd) := by
        rw [← cutAfter_decodeLossy]
        exact List.map_congr_left hpieces
    _ = (lines (Utf8.decodeLossy bytes)).map (dropEndWhile isReturn) := by
        rw [lines, List.map_map]

/-- The lines are the same either way exactly if none of the decoded text
ends in a carriage return. -/
theorem streamedLines_eq_lines_iff {bytes : List UInt8} :
    streamedLines bytes = lines (Utf8.decodeLossy bytes)
      ↔ ∀ line ∈ lines (Utf8.decodeLossy bytes),
        line.getLast? ≠ some '\r' := by
  rw [streamedLines_eq]
  conv_lhs => rhs; rw [← List.map_id (lines _)]
  rw [List.map_inj_left]
  exact forall₂_congr fun _ _ => dropEndWhile_isReturn_eq_self_iff

end Text

-- =============================================================== scans

namespace LinkMap

/-- Whatever the bytes of a link map and whatever the rule, if no line of
the text that they decode to ends in a carriage return, then reading them
as a stream has a result, and one that is the scan of that text: the same
bounds, the same symbol or none at each address, and the same
statistics. -/
theorem load_agrees_with_scanText (rule : Eligibility) {bytes : List UInt8}
    (hlines : ∀ line ∈ Text.lines (Utf8.decodeLossy bytes),
      line.getLast? ≠ some '\r') :
    let whole := scanText rule (String.ofList (Utf8.decodeLossy bytes))
    scanBytes rule bytes = whole
      ∧ ∀ {sink : Log.Sink} {s : Surroundings} {path : String},
        sink.Keeps s.files path bytes →
        ((load sink rule path : ExceptT Error Simulation _).run s).1
          = .ok whole := by
  intro whole
  have hscan : scanBytes rule bytes = whole := by
    show scanLines rule (Text.streamedLines bytes)
      = scanLines rule (Text.lines (String.ofList _).toList)
    rw [String.toList_ofList, Text.streamedLines_eq_lines_iff.2 hlines]
  refine ⟨hscan, fun hkeeps => ?_⟩
  rw [(Simulation.yields_loadLinkMap rule hkeeps).1, hscan]

/-- A link map with newlines of both kinds and none at the end, where a
byte that starts no character and a character cut short stand behind a
name. -/
def illEncodedMap : List UInt8 :=
  Utf8.encode ("# Object files:\r\n[  0] /b/a.o\r\n"
    ++ "# Sections:\n0x1000\t0x100\t__TEXT\t__text\r\n"
    ++ "# Symbols:\n0x1000\t0x10\t[  0] _f").toList
    ++ [0xff, 0xe2, 0x82]

/-- The link map in a file of its own. -/
def illEncodedSurroundings : Surroundings where
  files :=
    { nodes := [(["map"], .file illEncodedMap)]
      workingDirectory := [] }

/-- What is ill encoded becomes two replacement characters in either way of
reading, and every carriage return is part of a line end. -/
theorem load_agrees_with_scanText_illEncoded :
    let text := Utf8.decodeLossy illEncodedMap
    let whole := scanText ⟨[]⟩ (String.ofList text)
    (∀ line ∈ Text.lines text, line.getLast? ≠ some '\r')
      ∧ ((load .nowhere ⟨[]⟩ "/map" : ExceptT Error Simulation _).run
          illEncodedSurroundings).1 = .ok whole
      ∧ whole.table.symbols
        = [⟨"_f\ufffd\ufffd", .ofDescriptor "/b/a.o"⟩] := by
  intro text whole
  have hlines : ∀ line ∈ Text.lines text, line.getLast? ≠ some '\r' := by
    decide +kernel
  have hkeeps : Log.Sink.nowhere.Keeps illEncodedSurroundings.files "/map"
      illEncodedMap := ⟨rfl, trivial⟩
  obtain ⟨-, hload⟩ := load_agrees_with_scanText ⟨[]⟩ hlines
  exact ⟨hlines, hload hkeeps, by decide +kernel⟩

end LinkMap

end LinkOrder
