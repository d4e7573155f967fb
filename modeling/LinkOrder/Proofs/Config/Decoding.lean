/-
What a configuration file gives. It is settled by the value that the text
spells (`Json.Tree.IsConfig`): a record in which each field may be missing,
and which then gives nothing for it. Exclusions are a list of strings, the
order is a variant, the level is a string, whatever it says. A text is read
as what it gives, with defaults for the rest (`Config.ofJson_eq_ok_iff`),
and whatever is read spells such a value. Configurations that are written
give all of their fields, and so they are read back as they were.
-/
import LinkOrder.Config
import LinkOrder.Proofs.Json.Defaults
import LinkOrder.Proofs.Json.Variants

namespace LinkOrder

open Json

/-- The names of the fields of a configuration. -/
def Config.fieldNames : List String :=
  ["excluded_library_prefixes", "remaining_order", "log_level"]

/-- The value is a record that gives these fields of a configuration and no
others. -/
def Json.Tree.IsConfig (tree : Tree) (given : Config.Partial) : Prop :=
  ∃ starts? order? level?,
    tree.givenParts? Config.fieldNames = some [starts?, order?, level?]
      ∧ starts?.map (Tree.list? Tree.string?)
        = given.excludedLibraries.map some
      ∧ order?.map (Tree.variant? RemainingOrder.byName)
        = given.remainingOrder.map some
      ∧ level?.map Tree.string? = given.logLevel.map some

namespace Config

-- =============================================================== fields

theorem lookup_byName (order : RemainingOrder) :
    RemainingOrder.byName.lookup order.name = some order := by
  cases order <;> decide

def excludedLibrariesSlot : Slot Partial :=
  .list "excluded_library_prefixes" (·.excludedLibraries)
    (fun config starts => { config with excludedLibraries := starts })
    (fun _ _ => rfl) faithful_string inscribed_string

def remainingOrderSlot : Slot Partial :=
  .variant "remaining_order" (·.remainingOrder)
    (fun config order => { config with remainingOrder := order })
    (fun _ _ => rfl) "`unspecified` or `address`" lookup_byName

def logLevelSlot : Slot Partial :=
  .string "log_level" (·.logLevel)
    (fun config level => { config with logLevel := level }) fun _ _ => rfl

/-- The fields of a configuration, as they are filled. -/
def layout : Layout Partial where
  slots := [excludedLibrariesSlot, remainingOrderSlot, logLevelSlot]
  apart := by
    simp only [List.pairwise_cons, List.forall_mem_cons]
    refine ⟨⟨?_, ?_, nofun⟩, ⟨?_, nofun⟩, nofun, .nil⟩
    · exact ⟨by decide, fun _ _ => rfl, fun _ _ => rfl⟩
    · exact ⟨by decide, fun _ _ => rfl, fun _ _ => rfl⟩
    · exact ⟨by decide, fun _ _ => rfl, fun _ _ => rfl⟩
  ext {state filled} h := by
    simp only [List.forall_mem_cons] at h
    obtain ⟨hstarts, horder, hlevel, -⟩ := h
    cases state
    cases filled
    cases hstarts
    cases horder
    cases hlevel
    rfl

-- ============================================================== reading

theorem get_blank : ∀ slot ∈ layout.slots, slot.get shape.blank = none := by
  simp only [layout, List.forall_mem_cons]
  exact ⟨rfl, rfl, rfl, nofun⟩

/-- Configurations are read as what values mean for their fields. -/
theorem faithful_config :
    Faithful shape.reader (shape.means? layout.slots) :=
  Shape.faithful rfl

/-- What values mean as configurations. -/
theorem means?_eq_some_iff {tree : Tree} {config : Config} :
    shape.means? layout.slots tree = some config
      ↔ ∃ given, tree.IsConfig given ∧ given.complete = config := by
  rw [layout.means?_eq_some_iff_of_defaults rfl get_blank]
  refine exists_congr fun given => ?_
  have hfinish : shape.finish given = .ok config
      ↔ given.complete = config := by
    show Except.ok given.complete = Except.ok config ↔ _
    rw [Except.ok.injEq]
  show (∃ parts, tree.givenParts? fieldNames = some parts
    ∧ List.Forall₂ (fun slot part? => slot.Shows given part?)
      [excludedLibrariesSlot, remainingOrderSlot, logLevelSlot] parts
    ∧ _) ↔ _
  rw [hfinish]
  simp only [List.forall₂_cons_left_iff, List.forall₂_nil_left_iff]
  constructor
  · rintro ⟨_, hparts, ⟨starts?, _, hstarts, ⟨order?, _, horder,
      ⟨level?, _, hlevel, rfl, rfl⟩, rfl⟩, rfl⟩, hcomplete⟩
    exact ⟨⟨starts?, order?, level?, hparts, hstarts, horder, hlevel⟩,
      hcomplete⟩
  · rintro ⟨⟨starts?, order?, level?, hparts, hstarts, horder, hlevel⟩,
      hcomplete⟩
    exact ⟨_, hparts, ⟨starts?, _, hstarts, ⟨order?, _, horder,
      ⟨level?, _, hlevel, rfl, rfl⟩, rfl⟩, rfl⟩, hcomplete⟩

/-- A text that spells a value is read as what the value gives, with
defaults for the rest. -/
theorem ofJson_eq_ok_iff {text : String} {tree : Tree} {config : Config}
    (h : Document text.toList tree) :
    ofJson text = .ok config
      ↔ ∃ given, tree.IsConfig given ∧ given.complete = config :=
  (faithful_config.readWhole_iff h).trans means?_eq_some_iff

/-- Whatever is read spells a value that gives it. -/
theorem exists_of_ofJson {text : String} {config : Config}
    (h : ofJson text = .ok config) :
    ∃ tree given, Document text.toList tree ∧ tree.IsConfig given
      ∧ given.complete = config := by
  obtain ⟨tree, htext, hmeans⟩ := faithful_config.exists_of_readWhole h
  obtain ⟨given, hgiven, hcomplete⟩ := means?_eq_some_iff.1 hmeans
  exact ⟨tree, given, htext, hgiven, hcomplete⟩

-- ============================================================== writing

/-- The state that holds all of a configuration. -/
def full (config : Config) : Partial :=
  ⟨some config.excludedLibraries, some config.remainingOrder,
    some config.logLevel⟩

theorem isSome_get_full (config : Config) :
    ∀ slot ∈ layout.slots, (slot.get config.full).isSome := by
  simp only [layout, List.forall_mem_cons]
  exact ⟨rfl, rfl, rfl, nofun⟩

/-- What is written for a configuration means it. -/
theorem inscribed_config :
    Inscribed (fun config => writeObject (memberTexts layout.slots
      (full config))) (shape.means? layout.slots) :=
  fun config => layout.spells_members get_blank rfl config.isSome_get_full

/-- Configurations survive being written and read. -/
theorem ofJson_toJson (config : Config) :
    ofJson config.toJson = .ok config :=
  inscribed_config.readWhole faithful_config config

end Config

end LinkOrder
