/-
Variants without contents as values. A variant is written as a string, its
name, or as an object whose only member has the name for a key and null for
a value; both forms mean the same, and nothing else means a variant
(`Tree.variant?`). The reader of variants reads exactly this
(`faithful_variant`). What is written is the first of the two forms.
-/
import LinkOrder.Proofs.Json.Records

namespace LinkOrder.Json

variable {State α : Type} {text rest core gap inner start : List Char}
  {c : Char} {tree : Tree} {expected : String}
  {variants : List (String × α)} {value : α}

/-- The variant of a name as it is written. -/
def variantOf? (variants : List (String × α)) (name : List Piece) :
    Option α :=
  (stringOf? name).bind fun said => variants.lookup said

/-- The variant that a value is. -/
def Tree.variant? (variants : List (String × α)) : Tree → Option α
  | .string name => variantOf? variants name
  | .object [(name, .null)] => variantOf? variants name
  | _ => none

-- =============================================================== names

/-- The name of a variant is decoded and looked up. -/
theorem toOption_readVariantName (name : List Piece) (rest : List Char) :
    (readVariantName expected variants
        (rawText name ++ '"' :: rest)).toOption
      = (variantOf? variants name).map (·, rest) := by
  have hread := toOption_readString name rest
  unfold readVariantName variantOf? stringOf?
  obtain ⟨⟨fault, hfault⟩, hmeans⟩ | ⟨said, hsaid, hmeans⟩ :=
    cases_of_toOption hread
  · rw [hfault, hmeans]
    rfl
  · rw [hsaid, hmeans]
    dsimp only [Option.map_some, Option.bind_some]
    cases variants.lookup (String.ofList said) with
    | none => rfl
    | some value => rfl

/-- What was read is a name that was found. -/
theorem exists_of_readVariantName
    (h : readVariantName expected variants text = .ok (value, rest)) :
    ∃ name, text = rawText name ++ '"' :: rest
      ∧ variantOf? variants name = some value := by
  unfold readVariantName at h
  split at h
  · cases h
  · next said left hread =>
      obtain ⟨name, rfl, hsaid⟩ := rawText_of_readString hread
      dsimp only at h
      split at h
      · next found hlookup =>
          cases h
          refine ⟨name, rfl, ?_⟩
          rw [variantOf?, stringOf?, hsaid]
          exact hlookup
      · cases h

-- ============================================================= closing

section
variable {before after more : List Char}
  {member : List Piece × Tree} {members : List (List Piece × Tree)}

/-- Behind a null the object has to be closed. -/
theorem closeVariant_null (hbefore : Blank before) (hafter : Blank after)
    (hmore : skipSpace more = c :: rest) :
    (closeVariant
        (before ++ ':' :: (after ++ (['n', 'u', 'l', 'l'] ++ more)))).toOption
      = if c = '\x7d' then some rest else none := by
  unfold closeVariant
  rw [readColon_append hbefore]
  dsimp only
  rw [List.cons_append, skipSpace_mark hafter rfl]
  simp only [readWord_append, hmore]
  split_ifs with hc
  · subst hc
    rfl
  · simp [hc, Except.toOption]

/-- A variant written as an object has `null` for its value, and nothing
else. -/
theorem closeVariant_refused (hbefore : Blank before)
    (hafter : Blank after) (hvalue : Spells core tree)
    (hnull : tree ≠ .null) :
    (closeVariant (before ++ ':' :: (after ++ (core ++ more)))).toOption
      = none := by
  obtain ⟨c, left, htext, -, hopens⟩ := hvalue.skipSpace_append hafter more
  have hc : c ≠ 'n' := by
    rintro rfl
    exact hnull hopens.eq_null
  unfold closeVariant
  rw [readColon_append hbefore]
  dsimp only
  rw [htext]
  simp [hc, Except.toOption]

/-- An object whose only member is null is left behind it. -/
theorem closeVariant_sole (hbefore : Blank before) (hafter : Blank after)
    (hmore : SpellsMembers false more []) (rest : List Char) :
    (closeVariant (before ++ ':' :: (after
        ++ (['n', 'u', 'l', 'l'] ++ (more ++ rest))))).toOption
      = some rest := by
  cases hmore with
  | @close _ gap hgap =>
      have hclose : skipSpace (gap ++ ['\x7d'] ++ rest) = '\x7d' :: rest := by
        rw [List.append_assoc]
        exact skipSpace_mark hgap rfl rest
      exact (closeVariant_null hbefore hafter hclose).trans (if_pos rfl)

/-- It has no second member. -/
theorem closeVariant_followed (hbefore : Blank before)
    (hafter : Blank after)
    (hmore : SpellsMembers false more (member :: members))
    (rest : List Char) :
    (closeVariant (before ++ ':' :: (after
        ++ (['n', 'u', 'l', 'l'] ++ (more ++ rest))))).toOption = none := by
  cases hmore with
  | @next gap behind core more _ _ hgap =>
      have hcomma : skipSpace
            (gap ++ ',' :: (behind ++ '"' :: (core ++ more)) ++ rest)
          = ',' :: (behind ++ '"' :: (core ++ more) ++ rest) := by
        rw [List.append_assoc]
        exact skipSpace_mark hgap rfl _
      exact (closeVariant_null hbefore hafter hcomma).trans
        (if_neg (by decide))

/-- What was closed had a colon, `null` and a brace there. -/
theorem exists_of_closeVariant (h : closeVariant text = .ok rest) :
    ∃ before after gap, Blank before ∧ Blank after ∧ Blank gap
      ∧ text = before ++ ':' :: (after
        ++ (['n', 'u', 'l', 'l'] ++ (gap ++ '\x7d' :: rest))) := by
  unfold closeVariant at h
  split at h
  · cases h
  · next colon hcolon =>
      obtain ⟨before, hbefore, rfl⟩ := exists_of_readColon hcolon
      obtain ⟨after, hafter, hvalue⟩ := exists_blank colon
      split at h
      · cases h
      · next word hstart =>
          split at h
          · cases h
          · next left hword =>
              obtain ⟨gap, hgap, hleft⟩ := exists_blank left
              split at h
              · next hclose =>
                  cases h
                  refine ⟨before, after, gap, hbefore, hafter, hgap, ?_⟩
                  rw [hvalue, hstart, eq_of_readWord hword, hleft, hclose]
                  rfl
              · cases h
              · cases h
      · cases h

end

-- =========================================================== both forms

/-- A variant may be written as its name. -/
theorem readVariant_quote (htext : skipSpace text = '"' :: inner) :
    readVariant expected variants text
      = readVariantName expected variants inner := by
  unfold readVariant
  rw [htext]
  rfl

/-- Or as an object with its name for a key. -/
theorem readVariant_key (htext : skipSpace text = '\x7b' :: inner)
    (hkey : nextKey true inner = .ok (some start)) :
    (readVariant expected variants text).toOption
      = closedBy closeVariant (readVariantName expected variants start) := by
  unfold readVariant
  rw [htext]
  simp only
  rw [hkey]
  exact toOption_closed id closeVariant _

/-- An empty object names no variant. -/
theorem readVariant_empty (htext : skipSpace text = '\x7b' :: inner)
    (hkey : nextKey true inner = .ok none) :
    (readVariant expected variants text).toOption = none := by
  unfold readVariant
  rw [htext]
  simp only
  rw [hkey]
  rfl

/-- No other value is a variant. -/
theorem readVariant_refused (htext : skipSpace text = c :: inner)
    (hquote : c ≠ '"') (hobject : c ≠ '\x7b') :
    (readVariant expected variants text).toOption = none := by
  unfold readVariant
  rw [htext]
  simp [hquote, hobject, Except.toOption]

/-- An object is read as a variant if its one member is a name with a
null. -/
theorem readVariant_members {body : List Char}
    {members : List (List Piece × Tree)}
    (htext : skipSpace text = '\x7b' :: (body ++ rest))
    (h : SpellsMembers true body members) :
    (readVariant expected variants text).toOption
      = ((Tree.object members).variant? variants).map (·, rest) := by
  cases members with
  | nil => exact readVariant_empty htext (h.nextKey_nil rest).1
  | cons member members =>
      obtain ⟨core, more, hmember, hmore, hnext⟩ := h.nextKey_cons rest
      rw [readVariant_key htext hnext]
      cases hmember with
      | @mk before after core name value hbefore hafter hvalue =>
          simp only [List.append_assoc, List.cons_append]
          unfold closedBy
          rw [toOption_readVariantName, Option.bind_map]
          cases value with
          | null =>
              cases hvalue
              -- closed after the one member, or refused for a second
              cases members with
              | nil =>
                  simp only [Function.comp_def,
                    closeVariant_sole hbefore hafter hmore rest]
                  show _ = (variantOf? variants name).map _
                  rw [Option.map_eq_bind]
                  rfl
              | cons =>
                  simp only [Function.comp_def,
                    closeVariant_followed hbefore hafter hmore rest]
                  exact Option.bind_fun_none _
          | _ =>
              simp only [Function.comp_def,
                closeVariant_refused hbefore hafter hvalue nofun]
              exact Option.bind_fun_none _

/-- An object that is read as a variant is a name with a null. -/
theorem spells_of_readVariant (hstart : skipSpace text = '\x7b' :: inner)
    (h : readVariant expected variants text = .ok (value, rest)) :
    ∃ body name, SpellsMembers true body [(name, .null)]
      ∧ inner = body ++ rest ∧ variantOf? variants name = some value := by
  have hread : (readVariant expected variants text).toOption
      = some (value, rest) := congrArg Except.toOption h
  cases hkey : nextKey true inner with
  | error fault =>
      unfold readVariant at h
      rw [hstart] at h
      simp only [hkey] at h
      cases h
  | ok key? =>
      cases key? with
      | none =>
          rw [readVariant_empty hstart hkey] at hread
          cases hread
      | some start =>
          rw [readVariant_key hstart hkey, closedBy_eq_some_iff] at hread
          obtain ⟨ending, hnamed, hclose⟩ := hread
          obtain ⟨name, rfl, hname⟩ := exists_of_readVariantName hnamed
          obtain ⟨before, after, behind, hbefore, hafter, hbehind, rfl⟩ :=
            exists_of_closeVariant hclose
          have hmember : SpellsMember _ (name, .null) :=
            .mk hbefore hafter .null
          obtain ⟨body, hbody, htext⟩ : ∃ body,
              SpellsMembers true body [(name, .null)]
                ∧ inner = body ++ rest := by
            refine spellsMembers_of_nextKey hkey hmember (.close hbehind) ?_
            simp only [List.append_assoc, List.cons_append,
              List.nil_append]
          exact ⟨body, name, hbody, htext, hname⟩

/-- Variants are read by their names, in both forms. -/
theorem faithful_variant :
    Faithful (Reader.variant expected variants)
      (Tree.variant? variants) where
  reads {gap core rest tree} hgap hspells hrest := by
    show (readVariant expected variants _).toOption = _
    obtain ⟨c, more, htext, hcore, hopens⟩ :=
      hspells.skipSpace_append hgap rest
    -- a variant is its bare name, or an object of one member with that name
    by_cases hquote : c = '"'
    · subst hquote
      obtain ⟨name, rfl⟩ := hopens.exists_string
      cases hspells with
      | string =>
          cases hcore
          rw [readVariant_quote htext, List.append_assoc]
          exact toOption_readVariantName name rest
    · by_cases hobject : c = '\x7b'
      · subst hobject
        obtain ⟨members, rfl⟩ := hopens.exists_object
        cases hspells with
        | object hmembers =>
            cases hcore
            exact readVariant_members htext hmembers
      · rw [readVariant_refused htext hquote hobject]
        cases tree with
        | string => exact absurd hopens hquote
        | object => exact absurd hopens hobject
        | _ => rfl
  spelled {text rest value} h := by
    change readVariant expected variants text = _ at h
    obtain ⟨gap, hgap, htext⟩ := exists_blank text
    cases hstart : skipSpace text with
    | nil =>
        unfold readVariant at h
        rw [hstart] at h
        cases h
    | cons c inner =>
        rw [hstart] at htext
        by_cases hquote : c = '"'
        · subst hquote
          rw [readVariant_quote hstart] at h
          obtain ⟨name, rfl, hname⟩ := exists_of_readVariantName h
          refine ⟨gap, _, .string name, hgap, .string name, ?_, hname⟩
          rw [htext, List.cons_append, List.append_assoc]
          rfl
        · by_cases hobject : c = '\x7b'
          · subst hobject
            obtain ⟨body, name, hbody, rfl, hname⟩ :=
              spells_of_readVariant hstart h
            exact ⟨gap, _, .object [(name, .null)], hgap, .object hbody,
              htext, hname⟩
          · have hread := congrArg Except.toOption h
            rw [readVariant_refused hstart hquote hobject] at hread
            cases hread

/-- What is written for a variant, if its name leads back to it. -/
theorem inscribed_variant {name : α → String}
    (h : ∀ value, variants.lookup (name value) = some value) :
    Inscribed (fun value => writeString (name value))
      (Tree.variant? variants) := by
  intro value
  obtain ⟨pieces, hspells, hsaid⟩ := spells_writeString (name value)
  refine ⟨.string pieces, hspells, ?_⟩
  show variantOf? variants pieces = some value
  rw [variantOf?, hsaid]
  exact h value

/-- A field that holds a variant. -/
def Slot.variant (name : String) (get : State → Option α)
    (set : State → α → State)
    (get_set : ∀ state value, get (set state value) = some value)
    (expected : String) {variants : List (String × α)}
    {called : α → String}
    (h : ∀ value, variants.lookup (called value) = some value) :
    Slot State :=
  { Value := α, name, get, set, get_set
    reader := .variant expected variants
    write := fun value => writeString (called value)
    means? := Tree.variant? variants
    faithful := faithful_variant
    inscribed := inscribed_variant h }

end LinkOrder.Json
