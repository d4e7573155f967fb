/-
What single lines of a link map say, spelled out. The readers of
`LinkMap/Line.lean` take lines apart by cuts; here each reading is put as
a condition on the text of the line: where its tabs and brackets stand,
and which numbers its fields hold.

Main statements: a line is a row of the text section exactly as `TextRow`
says (`textBounds?_eq_some_iff`), a listed object file exactly as `Listed`
says (`objectOf?_eq_some_iff`), and a symbol line that is to be recorded
exactly as `Recordable` says (`rowOf?_eq_some_iff_recordable`).
-/
import LinkOrder.LinkMap.Line

namespace LinkOrder.LinkMap

-- ============================================================= fields

/-- The three fields of a line: what stands before its first tab, before
its second, and behind that. -/
def Fields (line first second third : List Char) : Prop :=
  line = first ++ '\t' :: (second ++ '\t' :: third)
    ∧ '\t' ∉ first ∧ '\t' ∉ second

/-- A line has three fields in one way only, as the first two are cut at
the first tabs. -/
theorem threeFields?_eq_some_iff {line first second third : List Char} :
    threeFields? line = some (first, second, third)
      ↔ Fields line first second third := by
  unfold threeFields? Fields
  constructor
  · intro h
    split at h
    · next before rest hcut =>
        split at h
        · next second' third' hcut' =>
            simp only [Option.some.injEq, Prod.mk.injEq] at h
            obtain ⟨rfl, rfl, rfl⟩ := h
            obtain ⟨rfl, hsecond⟩ := Text.cut_eq_some_iff.1 hcut'
            obtain ⟨rfl, hfirst⟩ := Text.cut_eq_some_iff.1 hcut
            exact ⟨rfl, hfirst, hsecond⟩
        · cases h
    · cases h
  · intro hfields
    obtain ⟨rfl, hfirst, hsecond⟩ := hfields
    rw [Text.cut_eq_some_iff.2 ⟨rfl, hfirst⟩]
    dsimp only
    rw [Text.cut_eq_some_iff.2 ⟨rfl, hsecond⟩]

/-- A line has three fields as soon as it has two tabs. -/
theorem exists_fields_iff {line : List Char} :
    (∃ first second third, Fields line first second third)
      ↔ 2 ≤ line.count '\t' := by
  constructor
  · intro hthree
    obtain ⟨first, second, third, rfl, -, -⟩ := hthree
    simp only [List.count_append, List.count_cons_self]
    omega
  · intro hcount
    have hmem : '\t' ∈ line := List.count_pos_iff.1 (by omega)
    cases hcut : Text.cut '\t' line with
    | none => exact absurd hmem (Text.cut_eq_none_iff.1 hcut)
    | some halves =>
        obtain ⟨first, rest⟩ := halves
        obtain ⟨rfl, hfirst⟩ := Text.cut_eq_some_iff.1 hcut
        have hrest : '\t' ∈ rest := by
          rw [List.count_append, List.count_cons_self,
            List.count_eq_zero.2 hfirst] at hcount
          exact List.count_pos_iff.1 (by omega)
        cases hcut' : Text.cut '\t' rest with
        | none => exact absurd hrest (Text.cut_eq_none_iff.1 hcut')
        | some halves' =>
            obtain ⟨second, third⟩ := halves'
            obtain ⟨rfl, hsecond⟩ := Text.cut_eq_some_iff.1 hcut'
            exact ⟨first, second, third, rfl, hfirst, hsecond⟩

-- ======================================================= object files

/-- A line that lists an object file: whatever stands behind its first
closing bracket describes it. -/
def Listed (line : List Char) (object : ObjectFile) : Prop :=
  ∃ head descriptor, line = head ++ ']' :: descriptor ∧ ']' ∉ head
    ∧ object = .ofDescriptor (String.ofList (Text.trimStart descriptor))

/-- The object file of a line, its index aside. -/
def objectOf? (line : List Char) : Option ObjectFile :=
  (ObjectLine.read? line).map ObjectLine.object

/-- What is read from a line of the object files is what `Listed` says of
it. -/
theorem objectOf?_eq_some_iff {line : List Char} {object : ObjectFile} :
    objectOf? line = some object ↔ Listed line object := by
  unfold objectOf? ObjectLine.read? Listed
  cases hcut : Text.cut ']' line with
  | none =>
      have hnot := Text.cut_eq_none_iff.1 hcut
      simp only [Option.map_none, reduceCtorEq, false_iff]
      intro hlisted
      obtain ⟨head, descriptor, rfl, -, -⟩ := hlisted
      simp at hnot
  | some halves =>
      obtain ⟨head, descriptor⟩ := halves
      obtain ⟨rfl, hhead⟩ := Text.cut_eq_some_iff.1 hcut
      simp only [Option.map_some, Option.some.injEq]
      constructor
      · intro heq
        obtain rfl := heq
        exact ⟨head, descriptor, rfl, hhead, rfl⟩
      · intro hlisted
        -- a line is cut at its first bracket in one way only
        obtain ⟨head', descriptor', heq, hhead', rfl⟩ := hlisted
        rw [Text.cut_eq_some_iff.2 ⟨heq, hhead'⟩] at hcut
        cases hcut
        rfl

/-- Whatever has a closing bracket lists an object file. -/
theorem isSome_objectOf?_iff {line : List Char} :
    (objectOf? line).isSome ↔ ']' ∈ line := by
  unfold objectOf? ObjectLine.read?
  cases hcut : Text.cut ']' line with
  | none => simpa using Text.cut_eq_none_iff.1 hcut
  | some halves =>
      obtain ⟨rfl, -⟩ := Text.cut_eq_some_iff.1 hcut
      simp

-- =========================================================== sections

/-- A row of the text section, with the fields of its start and size. -/
def TextRow (line start size : List Char) : Prop :=
  textSectionMarker <:+: line ∧ ∃ rest, Fields line start size rest

/-- What is read from a row of the text section. Numbers that cannot be
read count as zero, on either side. -/
theorem textBounds?_eq_some_iff {line : List Char} {bounds : Bounds} :
    textBounds? line = some bounds
      ↔ ∃ start size, TextRow line start size
        ∧ bounds = ⟨(Numeral.readHex? start).getD 0,
            (Numeral.readHex? size).getD 0⟩ := by
  unfold textBounds? TextRow
  rw [← Text.occurs_iff]
  by_cases hmark : Text.occurs textSectionMarker line
  · simp only [hmark, if_true, true_and, ← threeFields?_eq_some_iff]
    cases hfields : threeFields? line with
    | none => simp
    | some fields =>
        obtain ⟨start, size, rest⟩ := fields
        simp only [Option.some.injEq, Prod.mk.injEq]
        constructor
        · intro heq
          obtain rfl := heq
          exact ⟨start, size, ⟨rest, rfl, rfl, rfl⟩, rfl⟩
        · intro hrow
          obtain ⟨_, _, ⟨_, rfl, rfl, -⟩, rfl⟩ := hrow
          rfl
  · simp [hmark]

-- ============================================================ symbols

/-- What the last field of a symbol line refers to, the index of an object
file and a name. An index stands in brackets with a blank behind them, and
means the first object file if it cannot be read; without brackets the
field is a name, and the object file the first again. -/
inductive Refers (field : List Char) : Nat → List Char → Prop
  | bracketed {index name : List Char}
      (hfield : field = '[' :: (index ++ [']', ' '] ++ name))
      (hfirst : ∀ front rest,
        index ++ [']', ' '] ++ name = front ++ [']', ' '] ++ rest →
          index.length ≤ front.length) :
      Refers field ((readIndex? index).getD 0).toNat name
  | bare (hfield : ∀ rest, field = '[' :: rest → ¬ [']', ' '] <:+: rest) :
      Refers field 0 field

/-- The last field of a symbol line is taken apart as `Refers` says,
brackets or not. -/
theorem splitReference_eq_iff {field name : List Char} {index : Nat} :
    splitReference field = (index, name) ↔ Refers field index name := by
  constructor
  · intro h
    unfold splitReference at h
    split at h
    · next rest =>
        split at h
        · next digits name' hcut =>
            -- brackets, and behind them the first place where they can close
            obtain ⟨rfl, hfirst⟩ := Text.cutAt_eq_some_iff.1 hcut
            cases h
            exact .bracketed rfl hfirst
        · next hcut =>
            cases h
            -- an opening bracket that nothing closes is part of a name
            refine .bare fun rest' heq hinfix => ?_
            cases heq
            rw [← Text.occurs_iff, Text.occurs, hcut] at hinfix
            cases hinfix
    · next hnot =>
        cases h
        exact .bare fun rest heq => absurd heq (hnot rest)
  · intro h
    cases h with
    | bracketed hfield hfirst =>
        subst hfield
        simp only [splitReference,
          Text.cutAt_eq_some_iff.2 ⟨rfl, hfirst⟩]
    | bare hfield =>
        unfold splitReference
        split
        · next rest =>
            have hcut : Text.cutAt [']', ' '] rest = none := by
              rw [← Option.not_isSome_iff_eq_none]
              exact fun hsome => hfield rest rfl (Text.occurs_iff.1 hsome)
            rw [hcut]
        · rfl

/-- A symbol line that is to be recorded, should its address lie in the
text section: it has three fields and starts with `0x`, the first is the
address, the second a size that is not zero, and the third refers to an
object file that is listed and a name, which make a symbol that may be
ordered. -/
def Recordable (rule : Eligibility) (objects : List ObjectFile)
    (line : List Char) (address : UInt64) (symbol : Symbol) : Prop :=
  ∃ first second third index name,
    Fields line first second third ∧ ['0', 'x'] <+: line
      ∧ Numeral.readHex? first = some address
      ∧ (∃ size, Numeral.readHex? second = some size ∧ 0 < size)
      ∧ Refers third index name
      ∧ objects[index]? = some symbol.object
      ∧ symbol.name = String.ofList name
      ∧ rule.admits symbol

/-- Only symbols that may be ordered are to be recorded. -/
theorem Recordable.admits {rule : Eligibility} {objects : List ObjectFile}
    {line : List Char} {address : UInt64} {symbol : Symbol}
    (h : Recordable rule objects line address symbol) :
    rule.admits symbol := by
  obtain ⟨_, _, _, _, _, -, -, -, -, -, -, -, hadmits⟩ := h
  exact hadmits

/-- What a line of the symbols records, its place in the text section
aside. -/
def rowOf? (rule : Eligibility) (objects : List ObjectFile)
    (line : List Char) : Option (UInt64 × Symbol) :=
  match SymbolLine.read rule objects.toArray line with
  | .recordable address symbol => some (address, symbol)
  | _ => none

/-- An entry is made by those lines only that are read as one to be
recorded. -/
theorem rowOf?_eq_some_iff {rule : Eligibility} {objects : List ObjectFile}
    {line : List Char} {address : UInt64} {symbol : Symbol} :
    rowOf? rule objects line = some (address, symbol)
      ↔ SymbolLine.read rule objects.toArray line
          = .recordable address symbol := by
  unfold rowOf?
  split
  · next heq => rw [heq]; simp
  · next hnot =>
      constructor
      · intro h; cases h
      · intro h; exact absurd h (hnot address symbol)

/-- A size that is there and is not zero. -/
theorem getD_readHex?_ne_zero_iff {field : List Char} :
    (Numeral.readHex? field).getD 0 ≠ 0
      ↔ ∃ size, Numeral.readHex? field = some size ∧ 0 < size := by
  cases Numeral.readHex? field with
  | none => simp
  | some size => simp [UInt64.pos_iff_ne_zero]

/-- The reader tries its tests in a fixed order and stops at the first that
fails; to pass all of them is a conjunction. -/
theorem read_eq_recordable_iff {rule : Eligibility}
    {objects : List ObjectFile} {line : List Char} {address : UInt64}
    {symbol : Symbol} :
    SymbolLine.read rule objects.toArray line = .recordable address symbol
      ↔ Recordable rule objects line address symbol := by
  unfold SymbolLine.read Recordable
  simp only [← threeFields?_eq_some_iff, ← getD_readHex?_ne_zero_iff,
    ← splitReference_eq_iff, ← List.isPrefixOf_iff_prefix]
  constructor
  · intro h
    -- the tests one by one; all branches but the last give another reading
    split at h
    case isFalse => cases h
    case isTrue hstart =>
      split at h
      case h_1 => cases h
      case h_2 first second third hfields =>
        split at h
        case h_1 => cases h
        case h_2 address' haddress =>
          split at h
          case h_1 => cases h
          case h_2 object hobject =>
            split at h
            case isTrue => cases h
            case isFalse hkeep =>
              cases h
              simp only [Bool.or_eq_true, decide_eq_true_eq,
                Bool.not_eq_true', not_or, Bool.not_eq_false] at hkeep
              have hlisted : objects[(splitReference third).1]?
                  = some object := by simpa using hobject
              exact ⟨first, second, third, (splitReference third).1,
                (splitReference third).2, hfields, hstart, haddress,
                hkeep.1, rfl, hlisted, rfl, hkeep.2⟩
  · intro h
    -- with every test passed, the reader has one way to go
    obtain ⟨first, second, third, index, name, hfields, hstart, haddress,
      hsize, hreference, hobject, hname, hadmits⟩ := h
    obtain ⟨symbolName, object⟩ := symbol
    dsimp only at hname hobject
    subst hname
    simp [hstart, hfields, haddress, hreference, hobject, hsize, hadmits]

/-- Reading a symbol line and its description agree. -/
theorem rowOf?_eq_some_iff_recordable {rule : Eligibility}
    {objects : List ObjectFile} {line : List Char} {address : UInt64}
    {symbol : Symbol} :
    rowOf? rule objects line = some (address, symbol)
      ↔ Recordable rule objects line address symbol :=
  rowOf?_eq_some_iff.trans read_eq_recordable_iff

end LinkOrder.LinkMap
