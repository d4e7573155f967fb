/-
Values as they are written. What is written for a value is in the grammar
and means that value (`Inscribed`): a character that is written as an
escape says itself, the digits of a number have its value and no zero idle
in front, and lists and objects have marks between their parts and nothing
else. Reading is not mentioned here; a faithful reader gives back whatever
is written because it reads what the text means (`Inscribed.readWhole`).
-/
import Mathlib.Data.List.Forall2
import LinkOrder.Json.Writer
import LinkOrder.Proofs.Json.Values

namespace LinkOrder.Json

variable {α : Type}

/-- What is written for a value means it. -/
def Inscribed (write : α → List Char) (means? : Tree → Option α) : Prop :=
  ∀ value, ∃ tree, Spells (write value) tree ∧ means? tree = some value

-- ============================================================= strings

/-- Four digits that are no surrogate say their character. -/
theorem meaning?_code {digits : Char × Char × Char × Char} {value : Nat}
    (h : fourDigits? digits.1 digits.2.1 digits.2.2.1 digits.2.2.2
      = some value) (hlow : isLowSurrogate value = false)
    (hhigh : isHighSurrogate value = false) (more : List Piece) :
    meaning? (.code digits value h :: more)
      = (meaning? more).map (Char.ofNat value :: ·) := by
  rw [meaning?.eq_def]
  dsimp only
  rw [hlow, hhigh]
  rfl

/-- A control character is written by the digits of its code. -/
theorem fourDigits?_control {n : Nat} (h : n < 32) :
    fourDigits? '0' '0' (Nat.digitChar (n / 16)) (Nat.digitChar (n % 16))
      = some n := by
  have hzero : Numeral.hexDigit? '0' = some 0 := rfl
  have hhigh := Numeral.Base.lawful_hexadecimal.digit?_digitChar (n / 16)
    (show n / 16 < 16 by omega)
  have hlow := Numeral.Base.lawful_hexadecimal.digit?_digitChar (n % 16)
    (show n % 16 < 16 by omega)
  change Numeral.hexDigit? _ = _ at hhigh hlow
  unfold fourDigits?
  rw [hzero, hhigh, hlow]
  exact congrArg some (by omega)

/-- A character is written as a piece that says it. -/
theorem exists_piece (c : Char) :
    ∃ piece : Piece, piece.text = writeChar c
      ∧ ∀ more, meaning? (piece :: more)
        = (meaning? more).map (c :: ·) := by
  unfold writeChar
  split
  · exact ⟨.short '"' _ rfl, rfl, fun _ => rfl⟩
  · exact ⟨.short '\\' _ rfl, rfl, fun _ => rfl⟩
  · exact ⟨.short 'b' _ rfl, rfl, fun _ => rfl⟩
  · exact ⟨.short 'f' _ rfl, rfl, fun _ => rfl⟩
  · exact ⟨.short 'n' _ rfl, rfl, fun _ => rfl⟩
  · exact ⟨.short 'r' _ rfl, rfl, fun _ => rfl⟩
  · exact ⟨.short 't' _ rfl, rfl, fun _ => rfl⟩
  · next hquote hbackslash _ _ _ _ _ =>
      split
      · next hcontrol =>
          -- written as four digits, and too small to be half a pair
          have hlt : c.toNat < 32 := hcontrol
          have hlow : isLowSurrogate c.toNat = false := by
            unfold isLowSurrogate
            simp
            omega
          have hhigh : isHighSurrogate c.toNat = false := by
            unfold isHighSurrogate
            simp
            omega
          refine ⟨.code ('0', '0', Nat.digitChar (c.toNat / 16),
            Nat.digitChar (c.toNat % 16)) c.toNat (fourDigits?_control hlt),
            rfl, fun more => ?_⟩
          rw [meaning?_code _ hlow hhigh, Char.ofNat_toNat]
      · next hcontrol =>
          exact ⟨.plain c ⟨hquote, hbackslash, hcontrol⟩, rfl,
            fun _ => rfl⟩

/-- Strings are written as what they say. -/
theorem exists_pieces (text : List Char) :
    ∃ pieces, rawText pieces = text.flatMap writeChar
      ∧ meaning? pieces = some text := by
  induction text with
  | nil => exact ⟨[], rfl, rfl⟩
  | cons c text ih =>
      obtain ⟨piece, htext, hpiece⟩ := exists_piece c
      obtain ⟨pieces, hmore, hmeans⟩ := ih
      refine ⟨piece :: pieces, ?_, ?_⟩
      · rw [rawText_cons, htext, hmore, List.flatMap_cons]
      · rw [hpiece, hmeans]
        rfl

/-- What is written for a text spells it, whatever characters it has. -/
theorem spells_writeString (text : String) :
    ∃ pieces, Spells (writeString text) (.string pieces)
      ∧ stringOf? pieces = some text := by
  obtain ⟨pieces, hraw, hmeans⟩ := exists_pieces text.toList
  refine ⟨pieces, ?_, ?_⟩
  · rw [writeString, ← hraw]
    exact .string pieces
  · rw [stringOf?, hmeans, Option.map_some, String.ofList_toList]

/-- So texts survive being written and read. -/
theorem inscribed_string : Inscribed writeString Tree.string? :=
  fun text =>
    let ⟨_, hspells, hmeans⟩ := spells_writeString text
    ⟨_, hspells, hmeans⟩

-- ============================================================= numbers

/-- Only zero is written with a zero in front. -/
theorem eq_zero_of_head?_toDigits {n : Nat}
    (h : (Nat.toDigits 10 n).head? = some '0') : n = 0 := by
  have hdigit : ∀ d < 10, Nat.digitChar d = '0' → d = 0 := by decide
  revert h
  refine Numeral.toDigits_induction (by decide)
    (motive := fun n digits => digits.head? = some '0' → n = 0) ?_ ?_ n
  · intro d hd h
    exact hdigit d hd (Option.some.inj h)
  · -- the first digit is that of the quotient
    intro n hle ih h
    rw [List.head?_append_of_ne_nil _ Nat.toDigits_ne_nil] at h
    have hquotient := ih h
    omega

/-- The numeral that is written for a number. -/
def Literal.ofNat (n : Nat) : Literal where
  minus := false
  whole := Nat.toDigits 10 n
  places := none
  power := none
  isDigits := ⟨Nat.toDigits_ne_nil,
    fun _ hc => Numeral.isSome_decimalDigit?_of_mem hc⟩
  isPlaces := nofun
  notIdle h := by
    rw [eq_zero_of_head?_toDigits h]
    rfl

/-- Natural numbers are written with their digits alone. -/
theorem Literal.text_ofNat (n : Nat) :
    (Literal.ofNat n).text = Nat.toDigits 10 n := by
  show [] ++ (Nat.toDigits 10 n ++ ([] ++ [])) = _
  rw [List.nil_append, List.append_nil, List.append_nil]

/-- The digits have the value of the number. -/
theorem Literal.wholeValue_ofNat (n : Nat) :
    (Literal.ofNat n).wholeValue = n := by
  show (Numeral.Base.decimal.valueFrom? 0 (Nat.toDigits 10 n)).getD 0 = n
  rw [show (10 : Nat) = Numeral.Base.decimal.size from rfl,
    Numeral.Base.lawful_decimal.valueFrom?_toDigits]
  rfl

/-- So the literal stands for that number and for no other. -/
theorem Literal.integer?_ofNat (n : Nat) :
    (Literal.ofNat n).integer? = some (n : Int) := by
  show some ((Literal.ofNat n).wholeValue : Int) = _
  rw [Literal.wholeValue_ofNat]

/-- Numbers of 64 bits survive being written and read. -/
theorem inscribed_natural : Inscribed writeNatural Tree.natural? := by
  intro value
  refine ⟨.number (.ofNat value.toNat), ?_, ?_⟩
  · rw [writeNatural, ← Literal.text_ofNat]
    exact .number _
  · show Literal.natural? _ = _
    unfold Literal.natural?
    rw [Literal.wholeValue_ofNat]
    show (if value.toNat < UInt64.size then _ else _) = _
    rw [if_pos value.toNat_lt_size, UInt64.ofNat_toNat]

-- =============================================================== marks

/-- What stands behind a part: the mark that closes the whole, or a comma
and the other parts. -/
def behind (mark : Char) : List (List Char) → List Char
  | [] => [mark]
  | texts => ',' :: (writeJoined texts ++ [mark])

/-- Texts that are joined by commas and closed by a mark: the first, and
then each behind its comma. -/
theorem writeJoined_append (mark : Char) (text : List Char)
    (more : List (List Char)) :
    writeJoined (text :: more) ++ [mark] = text ++ behind mark more := by
  cases more with
  | nil => rfl
  | cons next more =>
      rw [writeJoined, List.append_assoc]
      · rfl
      · exact nofun

/-- Behind an item that is written, a comma leads to the next. -/
theorem spells_behind_items {texts : List (List Char)}
    {items : List Tree} (h : List.Forall₂ Spells texts items) :
    SpellsItems false (behind ']' texts) items := by
  induction h with
  | nil => exact .close blank_nil
  | @cons text item texts items hitem _ ih =>
      have hnext := SpellsItems.next blank_nil blank_nil hitem ih
      rwa [List.nil_append, List.nil_append, ← writeJoined_append]
        at hnext

/-- Lists are written as the lists of what their items are written as. -/
theorem spells_writeList {texts : List (List Char)} {items : List Tree}
    (h : List.Forall₂ Spells texts items) :
    Spells (writeList texts) (.list items) := by
  refine .list ?_
  cases h with
  | nil => exact .close blank_nil
  | cons hitem hmore =>
      have hfirst :=
        SpellsItems.first blank_nil hitem (spells_behind_items hmore)
      rwa [List.nil_append, ← writeJoined_append] at hfirst

/-- A member that is written, by its key and its value. -/
def WrittenMember (member : String × List Char)
    (spelled : List Piece × Tree) : Prop :=
  Spells (writeString member.1) (.string spelled.1)
    ∧ Spells member.2 spelled.2

def memberText (member : String × List Char) : List Char :=
  writeString member.1 ++ ':' :: member.2

/-- A written member starts with the quote of its key. -/
theorem WrittenMember.exists_core {member : String × List Char}
    {spelled : List Piece × Tree} (h : WrittenMember member spelled) :
    ∃ core, memberText member = '"' :: core
      ∧ SpellsMember core spelled := by
  obtain ⟨hkey, hvalue⟩ := h
  refine ⟨_, ?_, .mk blank_nil blank_nil hvalue⟩
  have hraw : writeString member.1
      = '"' :: (rawText spelled.1 ++ ['"']) := by
    generalize writeString member.1 = text at hkey
    cases hkey
    rfl
  rw [memberText, hraw]
  simp only [List.cons_append, List.append_assoc, List.nil_append]

/-- Further members are spelled up to the brace, each behind its comma. -/
theorem spells_behind_members {members : List (String × List Char)}
    {spelled : List (List Piece × Tree)}
    (h : List.Forall₂ WrittenMember members spelled) :
    SpellsMembers false (behind '\x7d' (members.map memberText))
      spelled := by
  induction h with
  | nil => exact .close blank_nil
  | @cons member one members spelled hmember _ ih =>
      obtain ⟨core, htext, hcore⟩ := hmember.exists_core
      have hnext := SpellsMembers.next blank_nil blank_nil hcore ih
      rwa [List.nil_append, List.nil_append, ← List.cons_append, ← htext,
        ← writeJoined_append] at hnext

/-- Objects are written as the objects of what their members are written
as. -/
theorem spells_writeObject {members : List (String × List Char)}
    {spelled : List (List Piece × Tree)}
    (h : List.Forall₂ WrittenMember members spelled) :
    Spells (writeObject members) (.object spelled) := by
  refine .object ?_
  show SpellsMembers true
    (writeJoined (members.map memberText) ++ ['\x7d']) spelled
  cases h with
  | nil => exact .close blank_nil
  | cons hmember hmore =>
      obtain ⟨core, htext, hcore⟩ := hmember.exists_core
      have hfirst := SpellsMembers.first blank_nil hcore
        (spells_behind_members hmore)
      rwa [List.nil_append, ← List.cons_append, ← htext,
        ← writeJoined_append] at hfirst

-- ============================================================== wholes

/-- Lists of values that are written as what they mean are written so. -/
theorem inscribed_list {write : α → List Char}
    {means? : Tree → Option α} (h : Inscribed write means?) :
    Inscribed (fun values => writeList (values.map write))
      (Tree.list? means?) := by
  intro values
  have hitems : ∃ items, List.Forall₂ Spells (values.map write) items
      ∧ items.mapM means? = some values := by
    induction values with
    | nil => exact ⟨[], .nil, rfl⟩
    | cons value values ih =>
        obtain ⟨item, hitem, hmeans⟩ := h value
        obtain ⟨items, hspells, hvalues⟩ := ih
        refine ⟨item :: items, .cons hitem hspells, ?_⟩
        rw [List.mapM_cons, hmeans, hvalues]
        rfl
  obtain ⟨items, hspells, hmeans⟩ := hitems
  exact ⟨.list items, spells_writeList hspells, hmeans⟩

/-- A value without space around it is a document. -/
theorem document_of_spells {text : List Char} {tree : Tree}
    (h : Spells text tree) : Document (String.ofList text).toList tree := by
  refine ⟨[], text, [], blank_nil, h, blank_nil, ?_⟩
  rw [String.toList_ofList, List.nil_append, List.append_nil]

/-- A faithful reader gives back what was written. -/
theorem Inscribed.readWhole {write : α → List Char}
    {means? : Tree → Option α} {reader : Reader α}
    (h : Inscribed write means?) (hreader : Faithful reader means?)
    (value : α) :
    reader.readWhole (String.ofList (write value)) = .ok value := by
  obtain ⟨tree, hspells, hmeans⟩ := h value
  exact (hreader.readWhole_iff (document_of_spells hspells)).2 hmeans

end LinkOrder.Json
