/-
Configurations as objects. What an object gives is what its members say of
the three fields, one by one (`Config.Gives`): a field that no member bears
the name of keeps its default, and one that a single member bears the name
of is what the value there means. Two members by the name of one field say
nothing, and are refused whatever their values are.

The members stand in any order, and those of other names hold any values at
all. Neither is seen, because of all the members only those that name a
field are asked for (`valuesOf_fieldMembers`), and of these the ones by one
name, of which there is one at most.
-/
import LinkOrder.Proofs.Config.Decoding
import LinkOrder.Proofs.Config.Validity

namespace LinkOrder

open Json

variable {α : Type} {members others : List (List Piece × Tree)}
  {name : String} {means? : Tree → Option α} {said? : Option α}

-- ============================================================= members

namespace Json

/-- What members say of a name: nothing, where none of them bears it, or
what the value of the only one means. -/
inductive Says (name : String) (means? : Tree → Option α)
    (members : List (List Piece × Tree)) : Option α → Prop
  | nothing (hnone : valuesOf name members = []) :
      Says name means? members none
  | value {tree : Tree} {meant : α} (hone : valuesOf name members = [tree])
      (hmeans : means? tree = some meant) :
      Says name means? members (some meant)

/-- All members bear names. Keys whose surrogates are not paired are
none. -/
def Named (members : List (List Piece × Tree)) : Prop :=
  ∀ member ∈ members, ∃ name, stringOf? member.1 = some name

/-- A name is said once at most, with a value that has a meaning. -/
theorem says_iff :
    Says name means? members said?
      ↔ ∃ part?, atMostOne? (valuesOf name members) = some part?
        ∧ part?.map means? = said?.map some := by
  constructor
  · intro h
    cases h with
    | nothing hnone => exact ⟨none, by rw [hnone]; rfl, rfl⟩
    | value hone hmeans =>
        refine ⟨_, by rw [hone]; rfl, ?_⟩
        rw [Option.map_some, hmeans, Option.map_some]
  · rintro ⟨part?, hpart, hmeans⟩
    -- on how many members bear the name
    match hvalues : valuesOf name members with
    | [] =>
        rw [hvalues] at hpart
        cases hpart
        cases said? with
        | none => exact .nothing hvalues
        | some meant => cases hmeans
    | [tree] =>
        rw [hvalues] at hpart
        cases hpart
        cases said? with
        | none => cases hmeans
        | some meant => exact .value hvalues (Option.some.inj hmeans)
    | _ :: _ :: _ =>
        rw [hvalues] at hpart
        cases hpart

/-- What is said of a name is said by one member at most. -/
theorem Says.length_le (h : Says name means? members said?) :
    (valuesOf name members).length ≤ 1 := by
  cases h with
  | nothing hnone => simp [hnone]
  | value hone _ => simp [hone]

/-- What is said of a name does not depend on where it is said. -/
theorem Says.of_perm
    (hperm : (valuesOf name members).Perm (valuesOf name others))
    (h : Says name means? members said?) :
    Says name means? others said? := by
  cases h with
  | nothing hnone =>
      rw [hnone] at hperm
      exact .nothing hperm.nil_eq.symm
  | value hone hmeans =>
      rw [hone] at hperm
      exact .value (List.perm_singleton.1 hperm.symm) hmeans

end Json

namespace Config

/-- The members that name fields of a configuration. -/
def fieldMembers (members : List (List Piece × Tree)) :
    List (List Piece × Tree) :=
  members.filter fun member =>
    fieldNames.any fun name => stringOf? member.1 = some name

/-- Members of other names have no value by the name of a field. -/
theorem valuesOf_fieldMembers (members : List (List Piece × Tree))
    (hname : name ∈ fieldNames) :
    valuesOf name (fieldMembers members) = valuesOf name members := by
  unfold valuesOf fieldMembers
  rw [List.filterMap_filter]
  refine List.filterMap_congr fun member _ => ?_
  dsimp only
  split_ifs with hfield hkey
  · rfl
  · rfl
  · next hkey =>
      refine absurd (List.any_eq_true.2 ⟨name, hname, ?_⟩) hfield
      exact decide_eq_true hkey
  · rfl

/-- The values of a field are told from the members that name fields. -/
theorem valuesOf_perm
    (h : (fieldMembers members).Perm (fieldMembers others))
    (hname : name ∈ fieldNames) :
    (valuesOf name members).Perm (valuesOf name others) := by
  rw [← valuesOf_fieldMembers members hname,
    ← valuesOf_fieldMembers others hname]
  exact h.filterMap _

-- =============================================================== given

variable {text other : String} {config : Config} {given : Partial}

/-- The members give these fields of a configuration and no others. -/
structure Gives (members : List (List Piece × Tree)) (given : Partial) :
    Prop where
  named : Named members
  excludedLibraries : Says "excluded_library_prefixes"
    (Tree.list? Tree.string?) members given.excludedLibraries
  remainingOrder : Says "remaining_order"
    (Tree.variant? RemainingOrder.byName) members given.remainingOrder
  logLevel : Says "log_level" Tree.string? members given.logLevel

/-- The members of an object are all that counts of it. -/
theorem isConfig_object_iff :
    (Tree.object members).IsConfig given ↔ Gives members given := by
  have hnamed : (members.all fun member => (stringOf? member.1).isSome)
      ↔ Named members := by
    simp only [List.all_eq_true, Option.isSome_iff_exists, Named]
  -- the three values of the fields, as one list
  have hparts : ∀ starts? order? level?,
      (Tree.object members).givenParts? fieldNames
          = some [starts?, order?, level?]
        ↔ Named members
          ∧ atMostOne? (valuesOf "excluded_library_prefixes" members)
            = some starts?
          ∧ atMostOne? (valuesOf "remaining_order" members) = some order?
          ∧ atMostOne? (valuesOf "log_level" members) = some level? := by
    intro starts? order? level?
    rw [Tree.givenParts?, ← hnamed]
    split_ifs with hall
    · rw [mapM_eq_some_iff]
      simp [fieldNames, hall]
    · constructor
      · intro h
        cases h
      · intro h
        exact absurd h.1 hall
  constructor
  · rintro ⟨starts?, order?, level?, h, hstarts, horder, hlevel⟩
    obtain ⟨hnames, hone, htwo, hthree⟩ := (hparts _ _ _).1 h
    exact ⟨hnames, says_iff.2 ⟨_, hone, hstarts⟩,
      says_iff.2 ⟨_, htwo, horder⟩, says_iff.2 ⟨_, hthree, hlevel⟩⟩
  · rintro ⟨hnames, hstarts, horder, hlevel⟩
    obtain ⟨starts?, hone, hstarts⟩ := says_iff.1 hstarts
    obtain ⟨order?, htwo, horder⟩ := says_iff.1 horder
    obtain ⟨level?, hthree, hlevel⟩ := says_iff.1 hlevel
    exact ⟨starts?, order?, level?,
      (hparts _ _ _).2 ⟨hnames, hone, htwo, hthree⟩, hstarts, horder,
      hlevel⟩

/-- An object is read as what its members give, with defaults for the
rest. -/
theorem ofJson_object_eq_ok_iff
    (htext : Document text.toList (.object members)) :
    ofJson text = .ok config
      ↔ ∃ given, Gives members given ∧ given.complete = config := by
  rw [ofJson_eq_ok_iff htext]
  exact exists_congr fun given => and_congr_left' isConfig_object_iff

/-- What members give does not depend on their order, nor on members of
other names. -/
theorem Gives.of_perm (h : Gives members given) (hnamed : Named others)
    (hperm : (fieldMembers members).Perm (fieldMembers others)) :
    Gives others given where
  named := hnamed
  excludedLibraries :=
    h.excludedLibraries.of_perm (valuesOf_perm hperm (by decide))
  remainingOrder :=
    h.remainingOrder.of_perm (valuesOf_perm hperm (by decide))
  logLevel := h.logLevel.of_perm (valuesOf_perm hperm (by decide))

/-- Each field is given once at most. -/
theorem Gives.length_le (h : Gives members given)
    (hname : name ∈ fieldNames) :
    (valuesOf name members).length ≤ 1 := by
  simp only [fieldNames, List.mem_cons, List.not_mem_nil, or_false]
    at hname
  rcases hname with rfl | rfl | rfl
  · exact h.excludedLibraries.length_le
  · exact h.remainingOrder.length_le
  · exact h.logLevel.length_le

/-- What cannot be parsed is not validated. -/
theorem ofText_of_ofJson {e : Json.Error} (h : ofJson text = .error e) :
    ofText text = .error (.parse e) := by
  unfold ofText
  rw [h]
  rfl

/-- A field that is given twice is refused. -/
theorem ofText_of_twice (htext : Document text.toList (.object members))
    (hname : name ∈ fieldNames)
    (htwice : 2 ≤ (valuesOf name members).length) :
    ∃ e, ofText text = .error (.parse e) := by
  cases hread : ofJson text with
  | error e => exact ⟨e, ofText_of_ofJson hread⟩
  | ok config =>
      obtain ⟨given, hgiven, -⟩ := (ofJson_object_eq_ok_iff htext).1 hread
      have honce := hgiven.length_le hname
      omega

/-- Objects that say the same of the fields are read as the same. -/
theorem toOption_ofJson_of_perm
    (htext : Document text.toList (.object members))
    (hother : Document other.toList (.object others))
    (hnamed : Named members) (hnames : Named others)
    (hperm : (fieldMembers members).Perm (fieldMembers others)) :
    (ofJson other).toOption = (ofJson text).toOption := by
  refine Option.ext fun config => ?_
  rw [toOption_eq_some_iff, toOption_eq_some_iff,
    ofJson_object_eq_ok_iff hother, ofJson_object_eq_ok_iff htext]
  refine exists_congr fun given => and_congr_left' ⟨?_, ?_⟩
  · exact fun h => h.of_perm hnamed hperm.symm
  · exact fun h => h.of_perm hnames hperm

/-- Configurations survive being written and read. An object is read as the
default configuration with exactly those fields replaced that its members
give, if every one of them is given once at most and with a value of its
type. So neither the order of the members nor the members of other names
have a part in it, while a field that is given twice makes the text no
configuration at all. -/
theorem ofJson_replaces_given (config : Config) (text : String)
    (members : List (List Piece × Tree))
    (htext : Document text.toList (.object members)) :
    ofJson config.toJson = .ok config
      ∧ (∀ given, Gives members given →
        ofJson text = .ok
          { excludedLibraries :=
              given.excludedLibraries.getD ({} : Config).excludedLibraries
            remainingOrder :=
              given.remainingOrder.getD ({} : Config).remainingOrder
            logLevel := given.logLevel.getD ({} : Config).logLevel })
      ∧ (∀ other others, Document other.toList (.object others) →
        Named members → Named others →
        (fieldMembers members).Perm (fieldMembers others) →
          (ofJson other).toOption = (ofJson text).toOption)
      ∧ ∀ name ∈ fieldNames, 2 ≤ (valuesOf name members).length →
        ∃ e, ofText text = .error (.parse e) := by
  refine ⟨ofJson_toJson config, ?_, ?_, ?_⟩
  · intro given hgiven
    exact (ofJson_object_eq_ok_iff htext).2 ⟨given, hgiven, rfl⟩
  · intro other others hother hnamed hnames hperm
    exact toOption_ofJson_of_perm htext hother hnamed hnames hperm
  · intro name hname htwice
    exact ofText_of_twice htext hname htwice

/-- Two fields, and between them something else. -/
def mixedText : String :=
  "\x7b\"log_level\":\"warn\",\"separator\":[\x7b\x7d],"
    ++ "\"remaining_order\":\"address\"\x7d"

/-- The same fields the other way round. -/
def turnedText : String :=
  "\x7b\"remaining_order\":\"address\",\"log_level\":\"warn\"\x7d"

/-- A field that is given twice. -/
def twiceText : String :=
  "\x7b\"log_level\":\"warn\",\"log_level\":\"warn\"\x7d"

/-- The texts are well-formed, and meet the conditions on their members. -/
theorem mixedText_spells :
    ∃ members others twice, Document mixedText.toList (.object members)
      ∧ Document turnedText.toList (.object others)
      ∧ Document twiceText.toList (.object twice)
      ∧ Gives members ⟨none, some .address, some "warn"⟩ ∧ Named others
      ∧ (fieldMembers members).Perm (fieldMembers others)
      ∧ 2 ≤ (valuesOf "log_level" twice).length := by
  obtain ⟨level, hlevel, hone⟩ := spells_writeString "log_level"
  obtain ⟨warn, hwarn, htwo⟩ := spells_writeString "warn"
  obtain ⟨separator, hseparator, hthree⟩ := spells_writeString "separator"
  obtain ⟨order, horder, hfour⟩ := spells_writeString "remaining_order"
  obtain ⟨address, haddress, hfive⟩ := spells_writeString "address"
  -- the members as they are written, to be put together three times
  have hlevels : WrittenMember ("log_level", writeString "warn")
      (level, .string warn) := ⟨hlevel, hwarn⟩
  have horders : WrittenMember ("remaining_order", writeString "address")
      (order, .string address) := ⟨horder, haddress⟩
  have hothers : WrittenMember ("separator", writeList [writeObject []])
      (separator, .list [.object []]) :=
    ⟨hseparator, spells_writeList (.cons (spells_writeObject .nil) .nil)⟩
  have hmixed : mixedText = String.ofList (writeObject
      [("log_level", writeString "warn"),
        ("separator", writeList [writeObject []]),
        ("remaining_order", writeString "address")]) := by
    decide +kernel
  have hturned : turnedText = String.ofList (writeObject
      [("remaining_order", writeString "address"),
        ("log_level", writeString "warn")]) := by
    decide +kernel
  have htwice : twiceText = String.ofList (writeObject
      [("log_level", writeString "warn"),
        ("log_level", writeString "warn")]) := by
    decide +kernel
  have hgives : Gives
      [(level, .string warn), (separator, .list [.object []]),
        (order, .string address)]
      ⟨none, some .address, some "warn"⟩ :=
    { named := by simp [Named, hone, hthree, hfour]
      excludedLibraries := .nothing (by simp [valuesOf, hone, hthree, hfour])
      remainingOrder := by
        have hvalue : valuesOf "remaining_order"
            [(level, .string warn), (separator, .list [.object []]),
              (order, .string address)] = [.string address] := by
          simp [valuesOf, hone, hthree, hfour]
        refine .value hvalue ?_
        show variantOf? _ address = _
        rw [variantOf?, hfive]
        decide
      logLevel := by
        have hvalue : valuesOf "log_level"
            [(level, .string warn), (separator, .list [.object []]),
              (order, .string address)] = [.string warn] := by
          simp [valuesOf, hone, hthree, hfour]
        exact .value hvalue htwo }
  rw [hmixed, hturned, htwice]
  refine ⟨_, [(order, .string address), (level, .string warn)],
    [(level, .string warn), (level, .string warn)],
    document_of_spells (spells_writeObject
      (.cons hlevels (.cons hothers (.cons horders .nil)))),
    document_of_spells
      (spells_writeObject (.cons horders (.cons hlevels .nil))),
    document_of_spells
      (spells_writeObject (.cons hlevels (.cons hlevels .nil))),
    hgives, ?_, ?_, ?_⟩
  · simp [Named, hone, hfour]
  · have hkept : fieldMembers
          [(level, .string warn), (separator, .list [.object []]),
            (order, .string address)]
        = [(level, .string warn), (order, .string address)] := by
      simp [fieldMembers, fieldNames, hone, hthree, hfour]
    have hall : fieldMembers
          [(order, .string address), (level, .string warn)]
        = [(order, .string address), (level, .string warn)] := by
      simp [fieldMembers, fieldNames, hone, hfour]
    rw [hkept, hall]
    exact List.Perm.swap ..
  · simp [valuesOf, hone]

/-- The fields that are given are read past the member that is none, in
either order; the one that is given twice is refused. -/
theorem ofJson_replaces_given_mixed :
    ofJson mixedText = .ok ⟨["GoogleMobileAds"], .address, "warn"⟩
      ∧ (ofJson turnedText).toOption = (ofJson mixedText).toOption
      ∧ ∃ e, ofText twiceText = .error (.parse e) := by
  obtain ⟨members, others, twice, hmixed, hturned, htwice, hgives, hnamed,
    hperm, hlength⟩ := mixedText_spells
  have hread := ofJson_replaces_given {} mixedText members hmixed
  have hrefused := ofJson_replaces_given {} twiceText twice htwice
  refine ⟨hread.2.1 _ hgives, ?_, ?_⟩
  · exact hread.2.2.1 _ _ hturned hgives.named hnamed hperm
  · exact hrefused.2.2.2 "log_level" (by decide) hlength

end Config

end LinkOrder
