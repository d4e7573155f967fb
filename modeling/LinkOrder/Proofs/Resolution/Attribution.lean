/-
A resolution does what it is meant to do. What an address of a run stands
for is said without any sorting, look-up or subtraction: it belongs to the
image that owns it, and stands for the symbol at that address of the link
map which the image's slide takes to it (`StandsFor`). Such an address is
unique where there is one, since sums here are sums of numbers and never
wrap; below the slide there is none.

A resolution has the symbols for which its addresses stand, one for each
and in their order, and its counts are those of the addresses that stand
for a symbol, have no owner, or neither (`Meets`). What is said in this
way leaves nothing open, so that it is met by the symbols and counts of a
resolution and by no others (`meets_iff_eq_resolve`).
-/
import LinkOrder.Proofs.Resolution.Owner
import Mathlib.Data.List.Forall2

namespace LinkOrder

namespace Resolution

-- ============================================================ meaning

/-- An address of a run stands for a symbol: its owner's slide leads to it
from the address at which the table has the symbol. -/
def StandsFor (table : Table) (images : List LoadedImage)
    (address : UInt64) (symbol : Symbol) : Prop :=
  ∃ image static, Owns images address image
    ∧ static.toNat + image.slide.toNat = address.toNat
    ∧ table.get? static = some symbol

/-- An outcome is the symbol for which the address stands, or none if it
stands for none. -/
def IsOutcome (table : Table) (images : List LoadedImage) (address : UInt64)
    (outcome : Option Symbol) : Prop :=
  ∀ symbol, outcome = some symbol ↔ StandsFor table images address symbol

open scoped Classical in
/-- The symbols and counts that the addresses of a capture call for. -/
structure Meets (table : Table) (capture : Capture)
    (symbols : List Symbol) (stats : ResolutionStats) : Prop where
  /-- There is one symbol for each address that stands for one, in the
  order of the addresses, and nothing for the others. -/
  found : ∃ outcomes : List (Option Symbol),
    List.Forall₂ (IsOutcome table capture.loadedImages)
        capture.addresses outcomes
      ∧ symbols = outcomes.filterMap id
  total : stats.total = capture.addresses.length
  resolved : stats.resolved = symbols.length
  /-- Addresses are outside all images if all were loaded above them. -/
  noImage : stats.noImage = capture.addresses.countP fun address =>
    ∀ image ∈ capture.loadedImages, address < image.loadAddress
  /-- Of the others those are missing that stand for no symbol. -/
  missingSymbol : stats.missingSymbol
    = capture.addresses.countP fun address =>
      (∃ image, Owns capture.loadedImages address image)
        ∧ ∀ symbol, ¬ StandsFor table capture.loadedImages address symbol

section
variable {table : Table} {images : List LoadedImage} {address : UInt64}

/-- What an address stands for is determined. -/
theorem isOutcome_unique {outcome other : Option Symbol}
    (h : IsOutcome table images address outcome)
    (h' : IsOutcome table images address other) : outcome = other := by
  refine Option.ext fun symbol => ?_
  rw [h symbol, h' symbol]

-- ======================================================= one address

/-- Undoing a slide never wraps. -/
theorem staticAddress?_eq_some_iff {image : LoadedImage}
    {static : UInt64} :
    staticAddress? image address = some static
      ↔ static.toNat + image.slide.toNat = address.toNat := by
  unfold staticAddress?
  -- a slide beyond the address leads nowhere, and no sum reaches it either
  by_cases hslide : image.slide ≤ address
  · have hsub := UInt64.toNat_sub_of_le _ _ hslide
    have hle := UInt64.le_iff_toNat_le.1 hslide
    rw [if_pos hslide, Option.some_inj, ← UInt64.toNat_inj, hsub]
    omega
  · have hlt := UInt64.lt_iff_toNat_lt.1 (UInt64.not_le.1 hslide)
    rw [if_neg hslide]
    constructor
    · intro hsome
      cases hsome
    · intro hsum
      omega

/-- An image's symbol for an address is the one that its slide leads
from. -/
theorem lookup?_eq_some_iff {image : LoadedImage} {symbol : Symbol} :
    lookup? table image address = some symbol
      ↔ ∃ static, static.toNat + image.slide.toNat = address.toNat
        ∧ table.get? static = some symbol := by
  simp only [← staticAddress?_eq_some_iff]
  unfold lookup?
  cases staticAddress? image address <;> simp

/-- An address has no owner, or one that has no symbol for it, or one that
has. -/
theorem attributionOf_cases (table : Table) (images : List LoadedImage)
    (address : UInt64) :
    (owner? images address = none
        ∧ attributionOf table images address = .noImage)
      ∨ (∃ image, owner? images address = some image
        ∧ lookup? table image address = none
        ∧ attributionOf table images address = .noSymbol image)
      ∨ ∃ image symbol, owner? images address = some image
        ∧ lookup? table image address = some symbol
        ∧ attributionOf table images address = .symbol symbol := by
  unfold attributionOf
  cases owner? images address with
  | none => exact .inl ⟨rfl, rfl⟩
  | some image =>
      dsimp only
      cases hlookup : lookup? table image address with
      | none => exact .inr (.inl ⟨image, rfl, hlookup, rfl⟩)
      | some symbol => exact .inr (.inr ⟨image, symbol, rfl, hlookup, rfl⟩)

/-- An address belongs to no image if it is below all of them; above the
highest there is no limit. -/
theorem isNoImage_attributionOf_iff :
    (attributionOf table (byLoadAddress images) address).isNoImage
      ↔ ∀ image ∈ images, address < image.loadAddress := by
  rw [← owner?_byLoadAddress_eq_none_iff]
  rcases attributionOf_cases table (byLoadAddress images) address with
    ⟨howner, hout⟩ | ⟨image, howner, -, hout⟩ | ⟨image, _, howner, -, hout⟩
  · simp [howner, hout, Attribution.isNoImage]
  · simp [howner, hout, Attribution.isNoImage]
  · simp [howner, hout, Attribution.isNoImage]

/-- An address is attributed to what it stands for. -/
theorem isOutcome_attributionOf (table : Table) (images : List LoadedImage)
    (address : UInt64) :
    IsOutcome table images address
      (attributionOf table (byLoadAddress images) address).symbol? := by
  intro symbol
  have hstands : StandsFor table images address symbol
      ↔ ∃ image, owner? (byLoadAddress images) address = some image
        ∧ lookup? table image address = some symbol := by
    unfold StandsFor
    simp only [owner?_byLoadAddress_eq_some_iff, lookup?_eq_some_iff]
    constructor
    · rintro ⟨image, static, howns, hsum, hget⟩
      exact ⟨image, howns, static, hsum, hget⟩
    · rintro ⟨image, howns, static, hsum, hget⟩
      exact ⟨image, static, howns, hsum, hget⟩
  rw [hstands]
  -- no owner, an owner without a symbol, or an owner with one
  rcases attributionOf_cases table (byLoadAddress images) address with
    ⟨howner, hout⟩ | ⟨image, howner, hlookup, hout⟩
      | ⟨image, found, howner, hlookup, hout⟩
  · simp [howner, hout, Attribution.symbol?]
  · simp [howner, hlookup, hout, Attribution.symbol?]
  · simp [howner, hlookup, hout, Attribution.symbol?]

/-- Of the addresses that have an owner, those that stand for nothing miss
their symbol. -/
theorem isNoSymbol_attributionOf_iff :
    (attributionOf table (byLoadAddress images) address).isNoSymbol
      ↔ (∃ image, Owns images address image)
        ∧ ∀ symbol, ¬ StandsFor table images address symbol := by
  simp only [← isOutcome_attributionOf table images address _,
    ← owner?_byLoadAddress_eq_some_iff]
  rcases attributionOf_cases table (byLoadAddress images) address with
    ⟨howner, hout⟩ | ⟨image, howner, -, hout⟩ | ⟨image, _, howner, -, hout⟩
  · simp [howner, hout, Attribution.isNoSymbol]
  · simp [howner, hout, Attribution.isNoSymbol, Attribution.symbol?]
  · simp [howner, hout, Attribution.isNoSymbol, Attribution.symbol?]

end

-- ==================================================== all addresses

section
variable (capture : Capture) (table : Table)

/-- The symbols of a resolution are those for which its addresses
stand. -/
theorem symbols_resolve :
    List.Forall₂ (IsOutcome table capture.loadedImages)
        capture.addresses
        (capture.addresses.map fun address =>
          (attributionOf table (byLoadAddress capture.loadedImages)
            address).symbol?)
      ∧ (capture.resolve table).symbols
        = (capture.addresses.map fun address =>
            (attributionOf table (byLoadAddress capture.loadedImages)
              address).symbol?).filterMap id := by
  constructor
  · rw [List.forall₂_map_right_iff, List.forall₂_same]
    intro address _
    exact isOutcome_attributionOf table capture.loadedImages address
  · unfold symbols Capture.resolve
    rw [List.filterMap_map, List.filterMap_map]
    rfl

/-- All symbols of a resolution are those of its table. -/
theorem mem_symbols_of_mem_resolve {capture : Capture} {table : Table}
    {symbol : Symbol} (h : symbol ∈ (capture.resolve table).symbols) :
    symbol ∈ table.symbols := by
  rw [(symbols_resolve capture table).2, List.mem_filterMap] at h
  obtain ⟨outcome, hmem, rfl⟩ := h
  obtain ⟨address, -, houtcome⟩ := List.mem_map.1 hmem
  obtain ⟨_, static, -, -, hget⟩ :=
    (isOutcome_attributionOf table capture.loadedImages address symbol).1
      houtcome
  exact Table.mem_symbols_iff.2 ⟨static, hget⟩

/-- Counting outcomes is counting addresses. -/
theorem countP_attributions (p : Attribution → Bool) :
    (capture.resolve table).attributions.countP (fun (_, o) => p o)
      = capture.addresses.countP fun address =>
          p (attributionOf table (byLoadAddress capture.loadedImages)
            address) := by
  unfold Capture.resolve
  rw [List.countP_map]
  rfl

/-- An address is outside all images, or misses its symbol, or has one. -/
theorem total_resolve :
    (capture.resolve table).stats.total
      = (capture.resolve table).stats.resolved
        + (capture.resolve table).stats.noImage
        + (capture.resolve table).stats.missingSymbol := by
  unfold stats symbols
  dsimp only
  -- each outcome is counted in one of the three
  induction (capture.resolve table).attributions with
  | nil => rfl
  | cons row rest ih =>
      obtain ⟨address, outcome⟩ := row
      rw [List.length_cons, List.filterMap_cons, List.countP_cons,
        List.countP_cons, ih]
      cases outcome <;>
        simp [Attribution.symbol?, Attribution.isNoImage,
          Attribution.isNoSymbol] <;> omega

open scoped Classical in
/-- A resolution has the symbols and counts that are called for. -/
theorem meets_resolve :
    Meets table capture (capture.resolve table).symbols
      (capture.resolve table).stats where
  found := ⟨_, symbols_resolve capture table⟩
  total := by
    unfold stats Capture.resolve
    dsimp only
    rw [List.length_map]
  resolved := rfl
  noImage := by
    refine (countP_attributions capture table _).trans ?_
    refine List.countP_congr fun address _ => ?_
    rw [isNoImage_attributionOf_iff, decide_eq_true_iff]
  missingSymbol := by
    refine (countP_attributions capture table _).trans ?_
    refine List.countP_congr fun address _ => ?_
    rw [isNoSymbol_attributionOf_iff, decide_eq_true_iff]

/-- Nothing is left open. -/
theorem Meets.unique {capture : Capture} {table : Table}
    {symbols symbols' : List Symbol} {stats stats' : ResolutionStats}
    (h : Meets table capture symbols stats)
    (h' : Meets table capture symbols' stats') :
    symbols = symbols' ∧ stats = stats' := by
  have hsymbols : symbols = symbols' := by
    obtain ⟨outcomes, houtcomes, rfl⟩ := h.found
    obtain ⟨outcomes', houtcomes', rfl⟩ := h'.found
    -- address by address
    have hsame : outcomes = outcomes' :=
      List.right_unique_forall₂'
        (fun address _ _ ha hb => @isOutcome_unique table _ address _ _ ha hb)
        houtcomes houtcomes'
    rw [hsame]
  refine ⟨hsymbols, ?_⟩
  obtain ⟨-, htotal, hresolved, hnoImage, hmissing⟩ := h
  obtain ⟨-, htotal', hresolved', hnoImage', hmissing'⟩ := h'
  cases stats
  cases stats'
  rw [ResolutionStats.mk.injEq]
  refine ⟨htotal.trans htotal'.symm, ?_, hnoImage.trans hnoImage'.symm,
    hmissing.trans hmissing'.symm⟩
  rw [← hsymbols] at hresolved'
  exact hresolved.trans hresolved'.symm

/-- For every table and every capture, whatever its addresses and images:
the symbols and counts of the resolution are those that its addresses call
for, and no others are. The addresses are split by what became of them, so
that the counts add up to their number. -/
theorem meets_iff_eq_resolve :
    (∀ symbols stats, Meets table capture symbols stats
        ↔ symbols = (capture.resolve table).symbols
          ∧ stats = (capture.resolve table).stats)
      ∧ (capture.resolve table).stats.total
        = (capture.resolve table).stats.resolved
          + (capture.resolve table).stats.noImage
          + (capture.resolve table).stats.missingSymbol := by
  refine ⟨fun symbols stats => ?_, total_resolve capture table⟩
  have hmeets := meets_resolve capture table
  constructor
  · intro h
    exact h.unique hmeets
  · intro heq
    obtain ⟨rfl, rfl⟩ := heq
    exact hmeets

end

end Resolution

end LinkOrder
