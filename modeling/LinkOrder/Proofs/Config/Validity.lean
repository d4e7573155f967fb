/-
What a valid configuration is good for: its rule has no empty exclusion,
which would exclude every library (`excludes_of_empty`), and its level is
one that a threshold is known for (`usable_iff`). The levels that are
accepted and the names that thresholds go by are two tables, which have to
hold the same names (`isSome_named?_iff`).

Names are looked up in lower case, and what that is beyond ASCII is not
settled here. It need not be. All names are made of ASCII letters, and the
only such letter that a lower casing makes of another character is the `k`
of the Kelvin sign, which no name has. So every lower casing finds the same
thresholds (`FoldsCase.named?_eq`).
-/
import LinkOrder.Inputs
import LinkOrder.Proofs.Numeral.Spelling

namespace LinkOrder

open Log (Threshold)

-- ========================================================= lower casing

/-- A lower casing of texts: it is the usual one where all characters are
ASCII, and of other texts it makes one that shows it, by a character
beyond ASCII or by a `k`. -/
structure FoldsCase (fold : String → String) : Prop where
  ascii : ∀ text : String, (∀ c ∈ text.toList, c.toNat < 0x80) →
    fold text = lowerCase text
  beyond : ∀ text : String, (∃ c ∈ text.toList, 0x80 ≤ c.toNat) →
    ∃ c ∈ (fold text).toList, c = 'k' ∨ 0x80 ≤ c.toNat

/-- To fold the letters of ASCII alone is enough. -/
theorem foldsCase_lowerCase : FoldsCase lowerCase where
  ascii _ _ := rfl
  beyond text h := by
    obtain ⟨c, hc, hbeyond⟩ := h
    refine ⟨c.toLower, ?_, .inr ?_⟩
    · rw [lowerCase, String.toList_ofList]
      exact List.mem_map_of_mem hc
    · rw [Numeral.toNat_toLower]
      split <;> omega

theorem ascii_or_beyond (text : String) :
    (∀ c ∈ text.toList, c.toNat < 0x80)
      ∨ ∃ c ∈ text.toList, 0x80 ≤ c.toNat := by
  by_cases h : ∃ c ∈ text.toList, 0x80 ≤ c.toNat
  · exact .inr h
  · exact .inl fun c hc => Nat.not_le.1 fun hle => h ⟨c, hc, hle⟩

namespace Config

/-- Names of levels are made of ASCII letters without a `k`. -/
theorem plain_of_mem_knownLevels {name : String} (h : name ∈ knownLevels) :
    ∀ c ∈ name.toList, c ≠ 'k' ∧ c.toNat < 0x80 := by
  have hall : knownLevels.all fun name =>
      name.toList.all fun c => c ≠ 'k' ∧ c.toNat < 0x80 := by
    decide
  intro c hc
  exact of_decide_eq_true
    (List.all_eq_true.1 (List.all_eq_true.1 hall name h) c hc)

/-- What is beyond ASCII names no level. -/
theorem not_mem_knownLevels_of_beyond {fold : String → String}
    (hfold : FoldsCase fold) {text : String}
    (h : ∃ c ∈ text.toList, 0x80 ≤ c.toNat) : fold text ∉ knownLevels := by
  intro hmem
  obtain ⟨c, hc, hshows⟩ := hfold.beyond text h
  obtain ⟨hne, hascii⟩ := plain_of_mem_knownLevels hmem c hc
  rcases hshows with heq | hbeyond
  · exact hne heq
  · omega

/-- The levels for which there are thresholds are the known ones. -/
theorem isSome_named?_iff {name : String} :
    (Threshold.named? name).isSome ↔ name ∈ knownLevels := by
  unfold Threshold.named?
  constructor
  · intro hsome
    split at hsome
    all_goals first | decide | cases hsome
  · intro hmem
    simp only [knownLevels, List.mem_cons, List.not_mem_nil, or_false] at hmem
    rcases hmem with rfl | rfl | rfl | rfl | rfl | rfl | rfl <;> rfl

end Config

/-- Every lower casing finds the same thresholds. -/
theorem FoldsCase.named?_eq {fold : String → String} (h : FoldsCase fold)
    (text : String) :
    Threshold.named? (fold text) = Threshold.ofName? text := by
  unfold Threshold.ofName?
  rcases ascii_or_beyond text with hascii | hbeyond
  · rw [h.ascii text hascii]
  · have hnone : ∀ {fold : String → String}, FoldsCase fold →
        Threshold.named? (fold text) = none := by
      intro fold hfold
      rw [← Option.not_isSome_iff_eq_none, Config.isSome_named?_iff]
      exact Config.not_mem_knownLevels_of_beyond hfold hbeyond
    rw [hnone h, hnone foldsCase_lowerCase]

-- ============================================================= validity

/-- An empty exclusion excludes whatever is in a library. -/
theorem Eligibility.excludes_of_empty {rule : Eligibility}
    (h : "" ∈ rule.excludedLibraries) (object : ObjectFile) :
    rule.excludes object = object.library.isSome := by
  unfold excludes
  cases object.library with
  | none => rfl
  | some library =>
      refine List.any_eq_true.2 ⟨"", h, ?_⟩
      simp

namespace Config

/-- A configuration that a run may go by. -/
structure Usable (config : Config) : Prop where
  valid : config.validate = .ok ()
  exclusions : "" ∉ config.eligibility.excludedLibraries
  level : (Threshold.ofName? config.logLevel).isSome

/-- An empty prefix and an unknown level are all that is refused. -/
theorem validate_eq_ok_iff {config : Config} :
    config.validate = .ok ()
      ↔ "" ∉ config.excludedLibraries
        ∧ (Threshold.ofName? config.logLevel).isSome := by
  have hempty : config.excludedLibraries.any (· = "")
      ↔ "" ∈ config.excludedLibraries := by simp
  unfold validate Threshold.ofName?
  rw [isSome_named?_iff]
  split
  · next h => simp [hempty.1 h]
  · next h =>
      rw [hempty] at h
      split
      · next hlevel => simp [hlevel]
      · next hlevel =>
          rw [Decidable.not_not] at hlevel
          simp [h, hlevel]

/-- A configuration is usable as soon as it is valid. -/
theorem usable_iff {config : Config} :
    config.Usable ↔ config.validate = .ok () := by
  constructor
  · exact Usable.valid
  · intro hvalid
    obtain ⟨hexclusions, hlevel⟩ := validate_eq_ok_iff.1 hvalid
    exact ⟨hvalid, hexclusions, hlevel⟩

/-- What a text is accepted for is what is read of it, if that is valid. -/
theorem ofText_eq_ok_iff {text : String} {config : Config} :
    ofText text = .ok config
      ↔ ofJson text = .ok config ∧ config.validate = .ok () := by
  unfold ofText
  cases hread : ofJson text with
  | error e => exact iff_of_false nofun nofun
  | ok read =>
      show (read.validate.mapError Error.invalid).bind (fun _ => .ok read)
          = .ok config ↔ _
      rw [Except.ok.injEq]
      cases hvalid : read.validate with
      | ok =>
          show Except.ok read = .ok config ↔ _
          rw [Except.ok.injEq]
          exact ⟨fun h => ⟨h, h ▸ hvalid⟩, And.left⟩
      | error reason =>
          refine iff_of_false nofun ?_
          rintro ⟨rfl, h⟩
          rw [hvalid] at h
          cases h

/-- Which level a configuration names decides about it as far as that
goes. -/
theorem validate_level_iff {config : Config}
    (h : "" ∉ config.excludedLibraries) (level : String) :
    validate { config with logLevel := level } = .ok ()
      ↔ (Threshold.ofName? level).isSome := by
  rw [validate_eq_ok_iff, and_iff_right h]

end Config

end LinkOrder
