/-
Which row of the sections bounds a table. A row has four fields, address,
size, segment and name, and that of the text section has `__TEXT` and
`__text` for the last two (`ownBounds?_eq_some_iff`). A scan asks for less:
it takes the first line with three fields in which these two stand one
behind the other, wherever that is. So every row of the text section will
do (`marked_of_ownBounds?`), but others will as well: of rows with numbers,
all whose segment ends in `__TEXT` and whose name begins with `__text`
(`marked_iff_of_sectionRow`).

The bounds are therefore those of the text section exactly if the first
line that will do is a row of it, or reads like the first one behind
(`bounds_scanLines_eq_own_iff`). A section whose name goes on behind
`__text` takes them, if its row stands in front (`otherSection_bounds`).
-/
import LinkOrder.Proofs.LinkMap.Consumed
import LinkOrder.Proofs.Numeral.Spelling

namespace LinkOrder

-- ==================================================== marks with a tab

/-- A mark with a separator in it stands in two texts with that separator
between them around it, or else in the second. -/
theorem Text.infix_append_cons_iff {sep : Char} {front back x y : List Char}
    (hfront : sep ∉ front) (hx : sep ∉ x) :
    front ++ sep :: back <:+: x ++ sep :: y
      ↔ (front <:+ x ∧ back <+: y) ∨ front ++ sep :: back <:+: y := by
  constructor
  · intro hinfix
    obtain ⟨before, after, heq⟩ := hinfix
    have hsplit : (before ++ front) ++ sep :: (back ++ after)
        = x ++ sep :: y := by simpa using heq
    rcases List.append_eq_append_iff.1 hsplit with
      ⟨between, rfl, hrest⟩ | ⟨between, hbetween, hrest⟩
    · cases between with
      | nil =>
          obtain ⟨-, rfl⟩ := List.cons.inj hrest
          exact .inl ⟨⟨before, by simp⟩, ⟨after, rfl⟩⟩
      | cons c between =>
          obtain ⟨rfl, -⟩ := List.cons.inj hrest
          exact absurd (by simp) hx
    · cases between with
      | nil =>
          obtain ⟨-, rfl⟩ := List.cons.inj hrest
          exact .inl ⟨⟨before, by simpa using hbetween⟩, ⟨after, rfl⟩⟩
      | cons c between =>
          obtain ⟨rfl, rfl⟩ := List.cons.inj hrest
          -- the separator of the texts stands in front of the mark
          have hends : front <:+ x ++ sep :: between := ⟨before, hbetween⟩
          have hbehind : front <:+ between := by
            have hsuffix : sep :: between <:+ x ++ sep :: between :=
              List.suffix_append x _
            rcases List.suffix_or_suffix_of_suffix hends hsuffix with
              hin | hin
            · rcases List.suffix_cons_iff.1 hin with rfl | hin
              · exact absurd List.mem_cons_self hfront
              · exact hin
            · exact absurd (hin.subset List.mem_cons_self) hfront
          obtain ⟨start, rfl⟩ := hbehind
          exact .inr ⟨start, after, by simp⟩
  · intro hcases
    rcases hcases with ⟨⟨before, rfl⟩, after, rfl⟩ | hy
    · exact ⟨before, after, by simp⟩
    · exact hy.trans ⟨x ++ [sep], [], by simp⟩

-- ================================================== fields with numbers

/-- In a field that holds a number there are blanks, digits, and the signs
that may stand in front of them. -/
theorem Numeral.of_mem_of_readHex? {field : List Char} {value : UInt64}
    (h : readHex? field = some value) {c : Char} (hc : c ∈ field) :
    Text.isBlank c ∨ c = 'x' ∨ c = '+' ∨ (hexDigit? c).isSome := by
  unfold readHex? at h
  split at h
  case h_2 => cases h
  case h_1 digits htrim =>
    obtain ⟨rest, hend, hrest⟩ :=
      Text.exists_append_dropEndWhile Text.isBlank (Text.trimStart field)
    rw [show Text.dropEndWhile _ _ = Text.trim field from rfl, htrim] at hend
    have hfield : field = field.takeWhile Text.isBlank
        ++ ('0' :: 'x' :: digits ++ rest) := by
      rw [← hend]
      exact List.takeWhile_append_dropWhile.symm
    have hdigits : c ∈ digits → c = '+' ∨ (hexDigit? c).isSome := by
      intro hmem
      have hplus : c = '+' ∨ c ∈ withoutPlus digits := by
        unfold withoutPlus
        split
        · exact List.mem_cons.1 hmem
        · exact .inr hmem
      refine hplus.imp_right fun hmem => ?_
      unfold Base.read? at h
      split at h
      · cases h
      · split at h
        · next total hvalue =>
            exact Base.isSome_digit?_of_valueFrom? hvalue c hmem
        · cases h
    rw [hfield] at hc
    rcases List.mem_append.1 hc with hstart | hc
    · exact .inl (List.mem_takeWhile_imp hstart)
    · simp only [List.cons_append, List.mem_cons, List.mem_append] at hc
      rcases hc with rfl | rfl | hc | hc
      · exact .inr (.inr (.inr rfl))
      · exact .inr (.inl rfl)
      · exact .inr (.inr (hdigits hc))
      · exact .inl (hrest c hc)

namespace LinkMap

-- ==================================================== rows of sections

/-- The segment of the text section. -/
def textSegment : List Char := "__TEXT".toList

/-- The name of the text section in its segment. -/
def textName : List Char := "__text".toList

/-- A row of a section: its address, its size, its segment and its name,
with tabs between them. -/
def SectionRow (line address size segment name : List Char) : Prop :=
  Fields line address size (segment ++ '\t' :: name)
    ∧ '\t' ∉ segment ∧ '\t' ∉ name

/-- The bounds in a row of the text section, a number that cannot be read
counting as zero. Rows of other sections have none to give. -/
def ownBounds? (line : List Char) : Option Bounds :=
  match threeFields? line with
  | some (address, size, rest) =>
      if rest = textSegment ++ '\t' :: textName then
        some ⟨(Numeral.readHex? address).getD 0,
          (Numeral.readHex? size).getD 0⟩
      else none
  | none => none

/-- What is read from a line of the section by the strict reading. -/
theorem ownBounds?_eq_some_iff {line : List Char} {bounds : Bounds} :
    ownBounds? line = some bounds
      ↔ ∃ address size, SectionRow line address size textSegment textName
        ∧ bounds = ⟨(Numeral.readHex? address).getD 0,
            (Numeral.readHex? size).getD 0⟩ := by
  have htabs : '\t' ∉ textSegment ∧ '\t' ∉ textName := by decide
  unfold ownBounds? SectionRow
  simp only [← threeFields?_eq_some_iff, htabs, not_false_eq_true, and_true]
  cases hfields : threeFields? line with
  | none => simp
  | some fields =>
      obtain ⟨address, size, rest⟩ := fields
      simp only [Option.some.injEq, Prod.mk.injEq]
      by_cases hrest : rest = textSegment ++ '\t' :: textName
      · rw [if_pos hrest]
        constructor
        · intro heq
          exact ⟨address, size, ⟨rfl, rfl, hrest⟩, (Option.some.inj heq).symm⟩
        · intro hrow
          obtain ⟨_, _, ⟨rfl, rfl, -⟩, rfl⟩ := hrow
          rfl
      · rw [if_neg hrest]
        simp [hrest]

-- ======================================================== marked lines

/-- A line that a scan takes for a row of the text section: it has three
fields, and segment and name stand in it with a tab between them. -/
def Marked (line : List Char) : Prop := ∃ start size, TextRow line start size

/-- The lenient reading accepts a line exactly if it is marked. -/
theorem marked_iff {line : List Char} :
    Marked line ↔ (textBounds? line).isSome := by
  unfold Marked
  rw [Option.isSome_iff_exists]
  simp only [textBounds?_eq_some_iff]
  constructor
  · intro hmarked
    obtain ⟨start, size, hrow⟩ := hmarked
    exact ⟨_, start, size, hrow, rfl⟩
  · intro hbounds
    obtain ⟨-, start, size, hrow, -⟩ := hbounds
    exact ⟨start, size, hrow⟩

/-- Rows of the text section are taken, and their bounds read as such. -/
theorem textBounds?_of_ownBounds? {line : List Char} {bounds : Bounds}
    (h : ownBounds? line = some bounds) : textBounds? line = some bounds := by
  obtain ⟨address, size, ⟨hfields, -, -⟩, rfl⟩ := ownBounds?_eq_some_iff.1 h
  refine textBounds?_eq_some_iff.2 ⟨address, size, ⟨?_, _, hfields⟩, rfl⟩
  refine ⟨address ++ '\t' :: (size ++ ['\t']), [], ?_⟩
  rw [hfields.1, show textSectionMarker = textSegment ++ '\t' :: textName
    from rfl]
  simp

/-- Of rows with numbers those are taken whose segment ends like that of
the text section, and whose name begins like its name. -/
theorem marked_iff_of_sectionRow {line address size segment name : List Char}
    (h : SectionRow line address size segment name)
    (haddress : (Numeral.readHex? address).isSome)
    (hsize : (Numeral.readHex? size).isSome) :
    Marked line ↔ textSegment <:+ segment ∧ textName <+: name := by
  obtain ⟨hfields, hsegment, hname⟩ := h
  obtain ⟨hline, htabAddress, htabSize⟩ := hfields
  have hmark : textSectionMarker = textSegment ++ '\t' :: textName := rfl
  have htab : '\t' ∉ textSegment := by decide
  -- the numbers have no underscore, so segment and name are not in them
  have hnumber : ∀ field : List Char, (Numeral.readHex? field).isSome →
      ¬ textSegment <:+ field := by
    intro field hsome hsuffix
    obtain ⟨value, hvalue⟩ := Option.isSome_iff_exists.1 hsome
    have hmem : '_' ∈ field := hsuffix.subset (by decide)
    exact absurd (Numeral.of_mem_of_readHex? hvalue hmem) (by decide)
  have hmarked : Marked line ↔ textSectionMarker <:+: line := by
    constructor
    · intro hmarked
      obtain ⟨-, -, hmarker, -⟩ := hmarked
      exact hmarker
    · intro hmarker
      exact ⟨address, size, hmarker, _, hline, htabAddress, htabSize⟩
  have hnone : ¬ textSectionMarker <:+: name := fun hmarker =>
    hname (hmarker.subset (by decide))
  rw [hmarked, hline, hmark, Text.infix_append_cons_iff htab htabAddress,
    Text.infix_append_cons_iff htab htabSize,
    Text.infix_append_cons_iff htab hsegment, ← hmark]
  simp [hnumber address haddress, hnumber size hsize, hnone]

-- ===================================================== the first of each

/-- The first line that is taken gives what the first row of the text
section does, exactly if it is one or reads like the first one behind. -/
theorem findSome?_textBounds?_eq_iff (lines : List (List Char)) :
    lines.findSome? textBounds? = lines.findSome? ownBounds?
      ↔ ∀ before line behind, lines = before ++ line :: behind →
          (∀ earlier ∈ before, ¬ Marked earlier) → Marked line →
            (ownBounds? line).isSome
              ∨ behind.findSome? ownBounds? = textBounds? line := by
  have hsilent : ∀ line, ¬ Marked line → ownBounds? line = none := by
    intro line hnot
    cases hown : ownBounds? line with
    | none => rfl
    | some bounds =>
        refine absurd (marked_iff.2 ?_) hnot
        rw [textBounds?_of_ownBounds? hown]
        rfl
  constructor
  · rintro hsame before line behind rfl hbefore hmarked
    -- neither reading stops before the first marked line
    have hmute : before.findSome? textBounds? = none := by
      rw [List.findSome?_eq_none_iff]
      intro earlier hearlier
      simpa [marked_iff] using hbefore earlier hearlier
    have hownMute : before.findSome? ownBounds? = none := by
      rw [List.findSome?_eq_none_iff]
      exact fun earlier hearlier => hsilent earlier (hbefore earlier hearlier)
    obtain ⟨bounds, hbounds⟩ :=
      Option.isSome_iff_exists.1 (marked_iff.1 hmarked)
    rw [List.findSome?_append, List.findSome?_append, hmute, hownMute,
      Option.none_or, Option.none_or, List.findSome?_cons,
      List.findSome?_cons, hbounds] at hsame
    cases hown : ownBounds? line with
    | some own => exact .inl rfl
    | none =>
        rw [hown] at hsame
        exact .inr (hsame.symm.trans hbounds.symm)
  · intro hfirst
    induction lines with
    | nil => rfl
    | cons line rest ih =>
        rw [List.findSome?_cons, List.findSome?_cons]
        by_cases hmarked : Marked line
        · obtain ⟨bounds, hbounds⟩ :=
            Option.isSome_iff_exists.1 (marked_iff.1 hmarked)
          rw [hbounds]
          cases hown : ownBounds? line with
          | some own =>
              rw [textBounds?_of_ownBounds? hown] at hbounds
              exact hbounds.symm
          | none =>
              rcases hfirst [] line rest rfl (by simp) hmarked with
                hsome | hbehind
              · rw [hown] at hsome
                cases hsome
              · rw [hbounds] at hbehind
                exact hbehind.symm
        · have hnone : textBounds? line = none := by
            simpa [marked_iff] using hmarked
          rw [hnone, hsilent line hmarked]
          refine ih fun before later behind hrest hbefore => ?_
          refine hfirst (line :: before) later behind (by rw [hrest]; rfl) ?_
          simpa [hmarked] using hbefore

-- ========================================================== the result

/-- What a scan has found is settled by whether it found anything, and by
the bounds that it has. -/
theorem found_and_bounds_scanLines_iff (rule : Eligibility)
    (lines : List (List Char)) (given : Option Bounds) :
    (scanLines rule lines).stats.textSectionFound = given.isSome
        ∧ (scanLines rule lines).table.bounds = given.getD .empty
      ↔ readBounds? lines = given := by
  rw [textSectionFound_scanLines, bounds_scanLines, boundsOf]
  cases readBounds? lines <;> cases given <;> simp

/-- For all lines, and whatever rule says which symbols may be ordered: a
row of the text section is always found. Rows with numbers are taken for it
if their segment ends, and their name begins, like those of the text
section. The table has the bounds of the first row of the text section, and
none if there is no such row, exactly if the first line of the sections
that is taken is such a row, or reads like the first one behind it. -/
theorem bounds_scanLines_eq_own_iff (rule : Eligibility)
    (lines : List (List Char)) :
    let sections := contents .sections lines
    let own := sections.findSome? ownBounds?
    let scan := scanLines rule lines
    (own.isSome → scan.stats.textSectionFound)
      ∧ (∀ line address size segment name,
          SectionRow line address size segment name →
          (Numeral.readHex? address).isSome →
          (Numeral.readHex? size).isSome →
            (Marked line ↔ textSegment <:+ segment ∧ textName <+: name))
      ∧ ((scan.stats.textSectionFound = own.isSome
            ∧ scan.table.bounds = own.getD .empty)
        ↔ ∀ before line behind, sections = before ++ line :: behind →
            (∀ earlier ∈ before, ¬ Marked earlier) → Marked line →
              (ownBounds? line).isSome
                ∨ behind.findSome? ownBounds? = textBounds? line) := by
  intro sections own scan
  refine ⟨fun hown => ?_, fun line address size segment name hrow haddress
    hsize => marked_iff_of_sectionRow hrow haddress hsize, ?_⟩
  · obtain ⟨line, hline, hgives⟩ := List.findSome?_isSome_iff.1 hown
    obtain ⟨bounds, hbounds⟩ := Option.isSome_iff_exists.1 hgives
    show (scanLines rule lines).stats.textSectionFound = true
    rw [textSectionFound_scanLines, readBounds?, List.findSome?_isSome_iff]
    exact ⟨line, hline, by rw [textBounds?_of_ownBounds? hbounds]; rfl⟩
  · rw [found_and_bounds_scanLines_iff]
    exact findSome?_textBounds?_eq_iff sections

/-- A link map in which a section whose name goes on behind `__text` is
listed in front of the text section. -/
def otherSectionText : String :=
  "# Object files:\n[  0] /b/a.o\n"
    ++ "# Sections:\n0x1000\t0x100\t__TEXT\t__textcoal_nt\n"
    ++ "0x2000\t0x100\t__TEXT\t__text\n"
    ++ "# Symbols:\n0x2000\t0x10\t[  0] _main\n"

/-- That section bounds the table, though the text section is listed, and
the symbols of the text section are lost. -/
theorem otherSection_bounds :
    let sections := contents .sections (Text.lines otherSectionText.toList)
    let table := (scanText ⟨[]⟩ otherSectionText).table
    sections.findSome? ownBounds? = some ⟨0x2000, 0x100⟩
      ∧ table.bounds = ⟨0x1000, 0x100⟩
      ∧ table.get? 0x2000 = none := by
  decide +kernel

end LinkMap

end LinkOrder
