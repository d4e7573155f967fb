/-
Link maps as linkers write them, and that reading one gives back what was
written. A `Listing` is what there is to write: object files, the bounds
of the text section, and symbols, each with the number of the object file
that defines it. It also settles what the layout leaves open, the spaces in
front of numbers in brackets and the spelling of hexadecimal numbers.

Descriptors and names are any texts that stay in one line; a descriptor
besides does not start with a blank, which would be trimmed off, and does
not announce a later part. A name may hold whatever the layout itself is
made of, as it is what is left behind two tabs and the first bracket that
closes.

Main statement: `scanText_text`. The lines of a listing are those that the
scan sees (`lines_text`); each is content of the part into which it was
written (`contents_lines`); and each is read back by itself
(`objectOf?_line`, `textBounds?_boundsLine`, `rowOf?_line`). What a scan
makes of its lines is known from there on (`table_scanLines`).
-/
import LinkOrder.Proofs.LinkMap.Consumed
import LinkOrder.Proofs.Numeral.Spelling

namespace LinkOrder.LinkMap

open Numeral (HexNumeral)

-- ============================================================= layout

/-- A text that can end a line: it does not break the line, and its own
end is not taken for that of the line. -/
def EndsLine (text : List Char) : Prop :=
  '\n' ∉ text ∧ text.getLast? ≠ some '\r'

instance (text : List Char) : Decidable (EndsLine text) :=
  inferInstanceAs (Decidable (_ ∧ _))

/-- An object file to be listed. -/
structure ObjectEntry where
  spaces : Nat
  descriptor : String
  endsLine : EndsLine descriptor.toList
  /-- A blank in front would be trimmed off. -/
  noBlank : descriptor.toList.head?.any Text.isBlank = false
  /-- A marker of a later part would end that of the object files. -/
  noSections : ¬ Part.sectionsMarker <:+: descriptor.toList
  noSymbols : ¬ Part.symbolsMarker <:+: descriptor.toList

/-- A symbol to be listed, with the number of one of `count` object
files. -/
structure SymbolEntry (count : Nat) where
  address : HexNumeral
  size : HexNumeral
  spaces : Nat
  index : UInt64
  listed : index.toNat < count
  name : String
  endsLine : EndsLine name.toList

/-- What a link map is to say. -/
structure Listing where
  objects : List ObjectEntry
  start : HexNumeral
  size : HexNumeral
  symbols : List (SymbolEntry objects.length)

/-- A number in brackets, in front of a text. -/
def numbered (spaces number : Nat) : List Char :=
  '[' :: (Numeral.spaced spaces number ++ [']', ' '])

/-- Two fields of hexadecimal numbers, in front of a third. -/
def measured (first second : HexNumeral) : List Char :=
  first.chars ++ '\t' :: (second.chars ++ ['\t'])

/-- The line of an object file that has the number. -/
def ObjectEntry.line (number : Nat) (entry : ObjectEntry) : List Char :=
  numbered entry.spaces number ++ entry.descriptor.toList

/-- The object file that an entry lists. -/
def ObjectEntry.object (entry : ObjectEntry) : ObjectFile :=
  .ofDescriptor entry.descriptor

/-- The last field in the line of a symbol. -/
def SymbolEntry.reference {count : Nat} (entry : SymbolEntry count) :
    List Char :=
  numbered entry.spaces entry.index.toNat ++ entry.name.toList

/-- The line of a symbol. -/
def SymbolEntry.line {count : Nat} (entry : SymbolEntry count) :
    List Char :=
  measured entry.address entry.size ++ entry.reference

namespace Listing

variable (listing : Listing)

/-- The bounds of the text section. -/
def bounds : Bounds := ⟨listing.start.value, listing.size.value⟩

/-- The symbol that an entry lists. -/
def symbol (entry : SymbolEntry listing.objects.length) : Symbol where
  name := entry.name
  object := (listing.objects.get ⟨entry.index.toNat, entry.listed⟩).object

/-- The symbols of some size that may be ordered, each with its address,
whether inside the bounds or not. -/
def recordable (rule : Eligibility) : List (UInt64 × Symbol) :=
  (listing.symbols.filter fun entry =>
    entry.size.value ≠ 0 && rule.admits (listing.symbol entry)).map
      fun entry => (entry.address.value, listing.symbol entry)

/-- The lines of the object files, numbered from zero. -/
def objectLines : List (List Char) :=
  listing.objects.mapIdx ObjectEntry.line

/-- The row of the text section. -/
def boundsLine : List Char :=
  measured listing.start listing.size ++ textSectionMarker

/-- The lines of the symbols. -/
def symbolLines : List (List Char) :=
  listing.symbols.map SymbolEntry.line

/-- All lines, those included that announce the parts. -/
def lines : List (List Char) :=
  Part.objectFilesMarker :: (listing.objectLines
    ++ Part.sectionsMarker :: listing.boundsLine
      :: Part.symbolsMarker :: listing.symbolLines)

/-- The link map, with a newline behind every line. -/
def text : String :=
  String.ofList (listing.lines.flatMap fun line => line ++ ['\n'])

end Listing

-- ================================================= what stands in front

/-- A character that is neither a digit nor used by the layout is not in
front of a descriptor or a name. -/
theorem not_mem_numbered {c : Char} (hlayout : c ∉ ['[', ' ', ']'])
    (hdigit : Numeral.decimalDigit? c = none) (spaces number : Nat) :
    c ∉ numbered spaces number := by
  simp only [List.mem_cons, List.not_mem_nil, or_false, not_or] at hlayout
  obtain ⟨hopen, hspace, hclose⟩ := hlayout
  -- spaces and digits in brackets, and a blank
  have hnumber := Numeral.not_mem_spaced hspace hdigit spaces number
  simp [numbered, hopen, hspace, hclose, hnumber]

/-- Nor is it in front of a third field. -/
theorem not_mem_measured {c : Char} (hlayout : c ∉ ['x', '\t'])
    (hdigit : Numeral.hexDigit? c = none) (first second : HexNumeral) :
    c ∉ measured first second := by
  simp only [List.mem_cons, List.not_mem_nil, or_false, not_or] at hlayout
  obtain ⟨hx, htab⟩ := hlayout
  have hfirst := first.not_mem_chars hx hdigit
  have hsecond := second.not_mem_chars hx hdigit
  simp [measured, htab, hfirst, hsecond]

/-- Two texts that can end a line can do so one behind the other. -/
theorem EndsLine.join {front text : List Char} (hfront : EndsLine front)
    (htext : EndsLine text) : EndsLine (front ++ text) := by
  constructor
  · intro hmem
    rcases List.mem_append.1 hmem with hmem | hmem
    · exact hfront.1 hmem
    · exact htext.1 hmem
  · rw [List.getLast?_append]
    cases hend : text.getLast? with
    | none =>
        rw [Option.none_or]
        exact hfront.2
    | some c =>
        have hlast := htext.2
        rw [hend] at hlast
        exact hlast

/-- What can end a line still can with something in front. -/
theorem EndsLine.append {front text : List Char} (h : EndsLine text)
    (hnewline : '\n' ∉ front) (hreturn : '\r' ∉ front) :
    EndsLine (front ++ text) :=
  EndsLine.join ⟨hnewline, fun hlast => hreturn
    (List.mem_of_getLast? hlast)⟩ h

-- ====================================================== object files

namespace ObjectEntry

variable (entry : ObjectEntry) (number : Nat)

/-- What is in front of a descriptor neither breaks the line nor ends
it. -/
theorem endsLine_line : EndsLine (entry.line number) :=
  entry.endsLine.append
    (not_mem_numbered (by decide) (by decide) _ _)
    (not_mem_numbered (by decide) (by decide) _ _)

/-- The line of an object file announces no later part. -/
theorem after_line :
    Part.after .objectFiles (entry.line number) = .objectFiles := by
  have hhash : '#' ∉ numbered entry.spaces number :=
    not_mem_numbered (by decide) (by decide) _ _
  exact Part.after_objectFiles
    (fun hmark => entry.noSections (Text.infix_of_infix_append hhash hmark))
    (fun hmark => entry.noSymbols (Text.infix_of_infix_append hhash hmark))

/-- The blank that the layout puts in front of a descriptor is all that is
trimmed off. -/
theorem trimStart_descriptor :
    Text.trimStart (' ' :: entry.descriptor.toList)
      = entry.descriptor.toList := by
  have hspace : Text.isBlank ' ' = true := by decide
  have hblank := entry.noBlank
  rw [Text.trimStart, List.dropWhile_cons_of_pos hspace]
  cases hchars : entry.descriptor.toList with
  | nil => rfl
  | cons c rest =>
      rw [hchars] at hblank
      have hc : Text.isBlank c = false := hblank
      rw [List.dropWhile_cons_of_neg (by rw [hc]; exact Bool.false_ne_true)]

/-- Whatever its number, an object file is read back. -/
theorem objectOf?_line :
    objectOf? (entry.line number) = some entry.object := by
  refine objectOf?_eq_some_iff.2
    ⟨'[' :: Numeral.spaced entry.spaces number,
      ' ' :: entry.descriptor.toList, ?_, ?_, ?_⟩
  · simp [line, numbered]
  · have hclose := Numeral.not_mem_spaced (c := ']') (by decide)
      (by decide) entry.spaces number
    simp [hclose]
  · rw [entry.trimStart_descriptor, String.ofList_toList]
    rfl

end ObjectEntry

-- =========================================================== symbols

/-- A number in brackets is read back, whatever the text behind it. -/
theorem splitReference_numbered (spaces : Nat) (index : UInt64)
    (name : List Char) :
    splitReference (numbered spaces index.toNat ++ name)
      = (index.toNat, name) := by
  have hclose := Numeral.not_mem_spaced (c := ']') (by decide) (by decide)
    spaces index.toNat
  -- a number has no bracket in it, so the layout's own one closes, whatever
  -- the name holds
  have hcut : Text.cutAt [']', ' ']
      (Numeral.spaced spaces index.toNat ++ [']', ' '] ++ name)
        = some (Numeral.spaced spaces index.toNat, name) :=
    Text.cutAt_append_of_not_mem hclose name
  have hread : readIndex? (Numeral.spaced spaces index.toNat) = some index :=
    Numeral.read?_trim_spaced spaces index
  show splitReference
    ('[' :: (Numeral.spaced spaces index.toNat ++ [']', ' '] ++ name)) = _
  simp only [splitReference, hcut, hread, Option.getD_some]

/-- The fields in front of a third are read back. -/
theorem fields_measured (first second : HexNumeral) (third : List Char) :
    Fields (measured first second ++ third) first.chars second.chars
      third := by
  refine ⟨by simp [measured], ?_, ?_⟩
  · exact first.not_mem_chars (by decide) (by decide)
  · exact second.not_mem_chars (by decide) (by decide)

namespace SymbolEntry

variable {count : Nat} (entry : SymbolEntry count)

/-- Of the line of a symbol only the name could do harm, and it must
not. -/
theorem endsLine_line : EndsLine entry.line := by
  have hreference : EndsLine entry.reference :=
    entry.endsLine.append
      (not_mem_numbered (by decide) (by decide) _ _)
      (not_mem_numbered (by decide) (by decide) _ _)
  exact hreference.append
    (not_mem_measured (by decide) (by decide) _ _)
    (not_mem_measured (by decide) (by decide) _ _)

/-- A symbol is read back, if it is one to be recorded. -/
theorem rowOf?_line {objects : List ObjectFile} {symbol : Symbol}
    (hname : symbol.name = entry.name)
    (hobject : objects[entry.index.toNat]? = some symbol.object)
    (rule : Eligibility) :
    rowOf? rule objects entry.line
      = if entry.size.value ≠ 0 && rule.admits symbol then
          some (entry.address.value, symbol)
        else none := by
  obtain ⟨name, object⟩ := symbol
  obtain rfl : name = entry.name := hname
  have hstart : ['0', 'x'].isPrefixOf entry.line = true := rfl
  have hfields := threeFields?_eq_some_iff.2
    (fields_measured entry.address entry.size entry.reference)
  have hreference : splitReference entry.reference
      = (entry.index.toNat, entry.name.toList) :=
    splitReference_numbered _ _ _
  unfold rowOf? SymbolLine.read
  rw [if_pos hstart, line, hfields]
  simp only [HexNumeral.readHex?_chars, Option.getD_some, hreference,
    List.getElem?_toArray, hobject, String.ofList_toList]
  by_cases hsize : entry.size.value = 0
  · simp [hsize]
  · by_cases hadmits : rule.admits ⟨entry.name, object⟩
    · simp [hsize, hadmits]
    · simp [hsize, hadmits]

end SymbolEntry

-- ======================================================= whole listings

namespace Listing

variable (listing : Listing)

/-- The row of the text section is read back, in whatever way its numbers
are spelled. -/
theorem textBounds?_boundsLine :
    textBounds? listing.boundsLine = some listing.bounds := by
  refine textBounds?_eq_some_iff.2
    ⟨listing.start.chars, listing.size.chars, ⟨?_, ?_⟩, ?_⟩
  · exact List.infix_append' (measured listing.start listing.size) _ []
  · exact ⟨textSectionMarker, fields_measured _ _ _⟩
  · rw [HexNumeral.readHex?_chars, HexNumeral.readHex?_chars]
    rfl

/-- Reading the text of a listing line by line gives its lines. -/
theorem lines_text : Text.lines listing.text.toList = listing.lines := by
  rw [text, String.toList_ofList]
  refine Text.lines_flatMap fun line hline => ?_
  show EndsLine line
  -- from the first line to the last, part by part
  rcases List.mem_cons.1 hline with rfl | hline
  · decide
  rcases List.mem_append.1 hline with hobject | hline
  · obtain ⟨number, hnumber, rfl⟩ := List.mem_mapIdx.1 hobject
    exact ObjectEntry.endsLine_line _ _
  rcases List.mem_cons.1 hline with rfl | hline
  · decide
  rcases List.mem_cons.1 hline with rfl | hline
  · exact EndsLine.append (by decide)
      (not_mem_measured (by decide) (by decide) _ _)
      (not_mem_measured (by decide) (by decide) _ _)
  rcases List.mem_cons.1 hline with rfl | hsymbol
  · decide
  · obtain ⟨entry, -, rfl⟩ := List.mem_map.1 hsymbol
    exact entry.endsLine_line

/-- Every line of a listing is content of the part that it was written
into. -/
theorem contents_lines (part : Part) :
    contents part listing.lines
      = (if Part.objectFiles = part then listing.objectLines else [])
        ++ ((if Part.sections = part then [listing.boundsLine] else [])
          ++ if Part.symbols = part then listing.symbolLines else []) := by
  have hobjects : ∀ line ∈ listing.objectLines,
      Part.after .objectFiles line = .objectFiles := by
    intro line hline
    obtain ⟨number, hnumber, rfl⟩ := List.mem_mapIdx.1 hline
    exact ObjectEntry.after_line _ _
  have hbounds : ∀ line ∈ [listing.boundsLine],
      Part.after .sections line = .sections := by
    intro line hline
    rw [List.mem_singleton.1 hline]
    refine Part.after_of_not_mem (fun hmem => ?_) _
    rcases List.mem_append.1 hmem with hmem | hmem
    · exact not_mem_measured (by decide) (by decide) _ _ hmem
    · exact absurd hmem (by decide)
  have hsymbols : ∀ line ∈ listing.symbolLines,
      Part.after .symbols line = .symbols :=
    fun line _ => Part.after_symbols line
  have hend : contentsFrom part .symbols listing.symbolLines
      = if Part.symbols = part then listing.symbolLines else [] := by
    have hall := contentsFrom_append_of_stay hsymbols part []
    rw [List.append_nil] at hall
    rw [hall, contentsFrom, List.append_nil]
  have hfirst : Part.after .preamble Part.objectFilesMarker
      = .objectFiles := by decide
  have hsecond : Part.after .objectFiles Part.sectionsMarker
      = .sections := by decide
  have hthird : Part.after .sections Part.symbolsMarker = .symbols := by
    decide
  -- three markers move forward, and nothing between them does
  unfold contents lines
  rw [contentsFrom_cons_of_advance (by rw [hfirst]; decide), hfirst,
    contentsFrom_append_of_stay hobjects,
    contentsFrom_cons_of_advance (by rw [hsecond]; decide), hsecond,
    ← List.singleton_append,
    contentsFrom_append_of_stay hbounds,
    contentsFrom_cons_of_advance (by rw [hthird]; decide), hthird, hend]

/-- All object files are read back, under the numbers that they were given,
since they are numbered in their order. -/
theorem listedObjects_lines :
    listedObjects listing.lines
      = listing.objects.map ObjectEntry.object := by
  unfold listedObjects
  rw [contents_lines]
  simp only [reduceCtorEq, if_false, if_true, List.append_nil]
  have hread : (objectOf? ∘ fun (numbered : ObjectEntry × Nat) =>
      ObjectEntry.line numbered.2 numbered.1)
        = some ∘ ObjectEntry.object ∘ Prod.fst :=
    funext fun _ => ObjectEntry.objectOf?_line _ _
  rw [objectLines, List.mapIdx_eq_zipIdx_map, List.filterMap_map, hread,
    List.filterMap_eq_map, ← List.map_map, List.zipIdx_map_fst]

/-- There is one row of the text section, so it is the first. -/
theorem boundsOf_lines : boundsOf listing.lines = listing.bounds := by
  unfold boundsOf readBounds?
  rw [contents_lines]
  simp [textBounds?_boundsLine]

/-- The symbols to be recorded are read back one by one. Of each line no
more is used than that its object file is listed. -/
theorem rows_lines (rule : Eligibility) :
    rows rule listing.lines = listing.recordable rule := by
  unfold rows
  rw [contents_lines, listedObjects_lines]
  simp only [reduceCtorEq, if_false, if_true, List.nil_append]
  have hobject : ∀ entry : SymbolEntry listing.objects.length,
      (listing.objects.map ObjectEntry.object)[entry.index.toNat]?
        = some (listing.symbol entry).object := by
    intro entry
    rw [List.getElem?_map, List.getElem?_eq_getElem entry.listed]
    rfl
  unfold symbolLines recordable
  -- symbol by symbol, as every line is read by itself
  induction listing.symbols with
  | nil => rfl
  | cons entry rest ih =>
      rw [List.map_cons, List.filterMap_cons, List.filter_cons,
        entry.rowOf?_line rfl (hobject entry), ih]
      cases entry.size.value ≠ 0 && rule.admits (listing.symbol entry) with
      | true => rfl
      | false => rfl

/-- Reading undoes writing: a scan of a listing finds its bounds and all
of its object files, and the table has the symbols entered that are to be
recorded, up to the first that lies outside the bounds. -/
theorem scanText_text (rule : Eligibility) :
    (scanText rule listing.text).table.bounds = listing.bounds
      ∧ (scanText rule listing.text).stats.objectFiles
        = listing.objects.length
      ∧ (scanText rule listing.text).table
        = .ofRows listing.bounds
          ((listing.recordable rule).takeWhile fun row =>
            listing.bounds.covers row.1) := by
  have htable : (scanText rule listing.text).table
      = .ofRows listing.bounds
        ((listing.recordable rule).takeWhile fun row =>
          listing.bounds.covers row.1) := by
    rw [scanText, lines_text, table_scanLines, rowsBeforeEnd,
      boundsOf_lines, rows_lines]
  refine ⟨?_, ?_, htable⟩
  · rw [htable, Table.bounds_ofRows]
  · rw [scanText, lines_text, objectFiles_scanLines, listedObjects_lines,
      List.length_map]

/-- Two object files, numbers in either spelling with and without zeros in
front, and three symbols: one whose name is made of the marks of the
layout, one beyond the section, and one inside that comes too late. -/
def spelledListing : Listing where
  objects :=
    [{ spaces := 2
       descriptor := "/b/libx.a(a.o)"
       endsLine := by decide +kernel
       noBlank := by decide +kernel
       noSections := mt Text.occurs_iff.2 (by decide +kernel)
       noSymbols := mt Text.occurs_iff.2 (by decide +kernel) },
     { spaces := 0
       descriptor := "linker synthesized"
       endsLine := by decide +kernel
       noBlank := by decide +kernel
       noSections := mt Text.occurs_iff.2 (by decide +kernel)
       noSymbols := mt Text.occurs_iff.2 (by decide +kernel) }]
  start := ⟨0x100, 0, "100".toList, by decide +kernel⟩
  size := ⟨0xff, 0, "fF".toList, by decide +kernel⟩
  symbols :=
    [{ address := ⟨0x1a0, 5, "1A0".toList, by decide +kernel⟩
       size := ⟨8, 0, "8".toList, by decide +kernel⟩
       spaces := 2
       index := 0
       listed := by decide
       name := "[  1] _f\t# Symbols:"
       endsLine := by decide +kernel },
     { address := ⟨0x1ff, 0, "1fF".toList, by decide +kernel⟩
       size := ⟨1, 1, "1".toList, by decide +kernel⟩
       spaces := 1
       index := 1
       listed := by decide
       name := "_beyond"
       endsLine := by decide +kernel },
     { address := ⟨0x1b0, 0, "1b0".toList, by decide +kernel⟩
       size := ⟨8, 0, "8".toList, by decide +kernel⟩
       spaces := 2
       index := 0
       listed := by decide
       name := "_late"
       endsLine := by decide +kernel }]

/-- Of the three symbols the first is read back, with its full name and
its object file, and the second ends the scan. -/
theorem scanText_text_spelled :
    spelledListing.text
        = "# Object files:\n[  0] /b/libx.a(a.o)\n"
          ++ "[1] linker synthesized\n"
          ++ "# Sections:\n0x100\t0xfF\t__TEXT\t__text\n"
          ++ "# Symbols:\n0x000001A0\t0x8\t[  0] [  1] _f\t# Symbols:\n"
          ++ "0x1fF\t0x01\t[ 1] _beyond\n0x1b0\t0x8\t[  0] _late\n"
      ∧ (scanText .permissive spelledListing.text).table.bounds
        = ⟨0x100, 0xff⟩
      ∧ (scanText .permissive spelledListing.text).stats.objectFiles = 2
      ∧ (scanText .permissive spelledListing.text).table
        = .ofRows ⟨0x100, 0xff⟩
          [(0x1a0, ⟨"[  1] _f\t# Symbols:",
            .ofDescriptor "/b/libx.a(a.o)"⟩)] := by
  have hrows : ((spelledListing.recordable .permissive).takeWhile fun row =>
        spelledListing.bounds.covers row.1)
      = [(0x1a0, ⟨"[  1] _f\t# Symbols:",
          .ofDescriptor "/b/libx.a(a.o)"⟩)] := by
    decide +kernel
  obtain ⟨hbounds, hobjects, htable⟩ :=
    spelledListing.scanText_text .permissive
  rw [hrows] at htable
  exact ⟨by decide +kernel, hbounds, hobjects, htable⟩

end Listing

end LinkOrder.LinkMap
