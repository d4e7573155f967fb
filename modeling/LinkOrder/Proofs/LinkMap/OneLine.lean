/-
What a scan of streamed lines enters stays in one line. A streamed line
holds no newline and does not end in a carriage return
(`endsLine_of_mem_streamedLines`). The name of a symbol is the end of its
line, so it can end a line as well (`Recordable.suffix`); and whatever
stands in the name of an object file stands in the line that listed it
(`Listed.mem_of_mem_file`), so that there is no newline either. Carriage
returns and tabs inside are kept.
-/
import LinkOrder.Proofs.LinkMap.RoundTrip
import LinkOrder.Proofs.LinkMap.Streaming
import LinkOrder.Proofs.Object.BaseName

namespace LinkOrder

-- ======================================================= parts of names

/-- The name of the object file that a text describes is made of its
characters. -/
theorem ObjectFile.mem_of_mem_file {descriptor : String} {c : Char}
    (h : c ∈ (ofDescriptor descriptor).file.toList) :
    c ∈ descriptor.toList := by
  unfold ofDescriptor at h
  split at h
  · next library file hmember =>
      obtain ⟨hdescriptor, -⟩ := member?_eq_some_iff.1 hmember
      have hfile := Path.mem_of_mem_baseName h
      rw [String.toList_ofList] at hfile
      rw [hdescriptor]
      simp [hfile]
  · exact Path.mem_of_mem_baseName h

-- ======================================================= streamed lines

/-- A text at whose end nothing is left to take off does not end in what
would be taken off. -/
theorem Text.getLast?_dropEndWhile {p : Char → Bool} {text : List Char}
    {c : Char} (h : (dropEndWhile p text).getLast? = some c) :
    p c = false := by
  rw [dropEndWhile, List.getLast?_reverse] at h
  have hhead := List.head?_dropWhile_not p text.reverse
  rw [h] at hhead
  simpa using hhead

namespace LinkMap

/-- What is left of a text can be all of a line, if the text has no
newline but at its end. -/
theorem endsLine_dropEndWhile {text : List Char} (h : '\n' ∉ text) :
    EndsLine (Text.dropEndWhile Text.isLineEnd text) := by
  obtain ⟨rest, htext, -⟩ :=
    Text.exists_append_dropEndWhile Text.isLineEnd text
  refine ⟨fun hmem => h ?_, fun hlast => ?_⟩
  · rw [htext]
    exact List.mem_append_left rest hmem
  · exact absurd (Text.getLast?_dropEndWhile hlast) (by decide)

/-- Whatever the bytes, a streamed line has no newline in it and no
carriage return at its end. -/
theorem endsLine_of_mem_streamedLines {bytes : List UInt8}
    {line : List Char} (h : line ∈ Text.streamedLines bytes) :
    EndsLine line := by
  obtain ⟨encoded, hencoded, rfl⟩ := List.mem_map.1 h
  have hpiece : Utf8.decodeLossy encoded
      ∈ Text.cutAfter '\n' (Utf8.decodeLossy bytes) := by
    rw [Text.cutAfter_decodeLossy]
    exact List.mem_map_of_mem hencoded
  unfold Text.streamedLine
  rcases Text.mark_at_end_of_mem_cutAfter hpiece with
    hinside | ⟨front, hfront, hmarked⟩
  · exact endsLine_dropEndWhile hinside
  · rw [hmarked, Text.dropEndWhile_append_of (by decide)]
    exact endsLine_dropEndWhile hfront

-- ========================================================== single lines

/-- The end of what can end a line can do so too. -/
theorem EndsLine.of_suffix {text line : List Char} (h : EndsLine line)
    (hsuffix : text <:+ line) : EndsLine text := by
  obtain ⟨hnewline, hreturn⟩ := h
  refine ⟨fun hmem => hnewline (hsuffix.subset hmem), fun hlast => ?_⟩
  obtain ⟨front, rfl⟩ := hsuffix
  exact hreturn (by rw [List.getLast?_append, hlast]; rfl)

/-- The name that a field ends in. -/
theorem Refers.suffix {field name : List Char} {index : Nat}
    (h : Refers field index name) : name <:+ field := by
  cases h with
  | bracketed hfield hfirst =>
      rw [hfield]
      exact (List.suffix_append _ name).trans (List.suffix_cons _ _)
  | bare hfield => exact List.suffix_rfl

/-- A symbol line ends in the name of the symbol. -/
theorem Recordable.suffix {rule : Eligibility} {objects : List ObjectFile}
    {line : List Char} {address : UInt64} {symbol : Symbol}
    (h : Recordable rule objects line address symbol) :
    symbol.name.toList <:+ line := by
  obtain ⟨first, second, third, index, name, ⟨hline, -, -⟩, -, -, -,
    hrefers, -, hname, -⟩ := h
  have hthird : third <:+ line :=
    ⟨first ++ '\t' :: (second ++ ['\t']), by rw [hline]; simp⟩
  rw [hname, String.toList_ofList]
  exact hrefers.suffix.trans hthird

/-- The object file of a recorded symbol is one of those listed. -/
theorem Recordable.mem_objects {rule : Eligibility}
    {objects : List ObjectFile} {line : List Char} {address : UInt64}
    {symbol : Symbol}
    (h : Recordable rule objects line address symbol) :
    symbol.object ∈ objects := by
  obtain ⟨_, _, _, _, _, -, -, -, -, -, hobject, -, -⟩ := h
  exact List.mem_of_getElem? hobject

/-- The name of an object file is made of what stands in its line. -/
theorem Listed.mem_of_mem_file {line : List Char} {object : ObjectFile}
    (h : Listed line object) {c : Char} (hc : c ∈ object.file.toList) :
    c ∈ line := by
  obtain ⟨head, descriptor, rfl, -, rfl⟩ := h
  have htrimmed := ObjectFile.mem_of_mem_file hc
  rw [String.toList_ofList] at htrimmed
  have hmem := (List.dropWhile_sublist Text.isBlank).subset htrimmed
  simp [hmem]

-- =============================================================== scans

/-- A symbol whose name can end a line, and that of whose object file can
stand in one. -/
structure StaysInLine (symbol : Symbol) : Prop where
  name : EndsLine symbol.name.toList
  file : '\n' ∉ symbol.object.file.toList

/-- A scan enters such symbols only, if its lines do not end early. -/
theorem staysInLine_of_mem_scanLines {rule : Eligibility}
    {lines : List (List Char)} (hlines : ∀ line ∈ lines, EndsLine line)
    {symbol : Symbol} (h : symbol ∈ (scanLines rule lines).table.symbols) :
    StaysInLine symbol := by
  obtain ⟨line, hline, address, hrecordable⟩ :=
    exists_recordable_of_mem_scanLines h
  obtain ⟨listing, hlisting, hlisted⟩ :=
    List.mem_filterMap.1 hrecordable.mem_objects
  refine ⟨(hlines line hline).of_suffix hrecordable.suffix, fun hmem => ?_⟩
  have hobject := (objectOf?_eq_some_iff.1 hlisted).mem_of_mem_file hmem
  exact (hlines listing (mem_of_mem_contents hlisting)).1 hobject

end LinkMap

end LinkOrder
