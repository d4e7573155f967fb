/-
What a table exports can be traced. A tracer is given the addresses of the
table and reports those that were reached, moved by the slide of the image
that the link map is about. Such an address resolves to the symbol that
the table has there, provided that it is found within that image
(`Within`): the sum does not wrap, the image was not loaded above it, and
no other image was loaded between the two.

Nothing is asked of how the slide and the load address go together, nor of
images that were loaded above the address or below the image. The order
and the number of the addresses do not matter, and if all of the table
were reached then an order file has nothing left to put behind its
separator (`resolve_exported`).
-/
import LinkOrder.Proofs.Resolution.Invariance
import LinkOrder.Proofs.Order.Enumeration

namespace LinkOrder

namespace Resolution

/-- An address of a link map, once moved by the slide of an image, lies in
that image as far as load addresses can tell. -/
structure Within (images : List LoadedImage) (image : LoadedImage)
    (static : UInt64) : Prop where
  fits : HasRoom static image.slide
  loaded : image.loadAddress.toNat ≤ static.toNat + image.slide.toNat
  /-- All other images were loaded above the moved address or below the
  image. -/
  alone : ∀ other ∈ images, other ≠ image →
    static.toNat + image.slide.toNat < other.loadAddress.toNat
      ∨ other.loadAddress < image.loadAddress

instance (images : List LoadedImage) (image : LoadedImage)
    (static : UInt64) : Decidable (Within images image static) :=
  decidable_of_iff
    (HasRoom static image.slide
      ∧ image.loadAddress.toNat ≤ static.toNat + image.slide.toNat
      ∧ ∀ other ∈ images, other ≠ image →
        static.toNat + image.slide.toNat < other.loadAddress.toNat
          ∨ other.loadAddress < image.loadAddress)
    ⟨fun ⟨hfits, hloaded, halone⟩ => ⟨hfits, hloaded, halone⟩,
      fun h => ⟨h.fits, h.loaded, h.alone⟩⟩

section
variable {images : List LoadedImage} {image : LoadedImage}
  {static : UInt64}

-- ======================================================= one address

/-- The image owns the address. -/
theorem Within.owns (h : Within images image static)
    (hmem : image ∈ images) :
    Owns images (static + image.slide) image := by
  have hat : image.loadAddress ≤ static + image.slide := by
    rw [UInt64.le_iff_toNat_le, h.fits.toNat_add]
    exact h.loaded
  have hlower : ∀ other ∈ images, other.loadAddress ≤ static + image.slide →
      other ≠ image → other.loadAddress < image.loadAddress := by
    intro other hother hbelow hne
    rcases h.alone other hother hne with habove | hlt
    · rw [UInt64.le_iff_toNat_le, h.fits.toNat_add] at hbelow
      exact absurd habove (Nat.not_lt.2 hbelow)
    · exact hlt
  refine owns_iff.2 ⟨hat, fun other hother hbelow => ?_, ?_⟩
  · by_cases hsame : other = image
    · rw [hsame]
      exact UInt64.le_refl _
    · exact UInt64.le_of_lt (hlower other hother hbelow hsame)
  · -- no other image has its load address, so it is the first that has
    have hsome : (images.find? fun other =>
        other.loadAddress = image.loadAddress).isSome :=
      List.find?_isSome.2 ⟨image, hmem, by simp⟩
    obtain ⟨found, hfound⟩ := Option.isSome_iff_exists.1 hsome
    have hload : found.loadAddress = image.loadAddress := by
      simpa using List.find?_some hfound
    have hsame : found = image := by
      by_contra hne
      have hlt := hlower found (List.mem_of_find?_eq_some hfound)
        (by rw [hload]; exact hat) hne
      rw [hload] at hlt
      exact UInt64.lt_irrefl _ hlt
    rw [hfound, hsame]

/-- What stands at an address of the table is found from the moved one. -/
theorem Within.symbol?_attributionOf (table : Table)
    (h : Within images image static) (hmem : image ∈ images) :
    (attributionOf table (byLoadAddress images)
        (static + image.slide)).symbol? = table.get? static := by
  refine isOutcome_unique (isOutcome_attributionOf table images _) ?_
  intro symbol
  constructor
  · intro hget
    exact ⟨image, static, h.owns hmem, h.fits.toNat_add.symm, hget⟩
  · intro hstands
    obtain ⟨owner, back, howns, hsum, hget⟩ := hstands
    -- the owner is the table's image, and its slide can be undone once
    obtain rfl := howns.unique (h.owns hmem)
    rw [h.fits.toNat_add] at hsum
    obtain rfl := UInt64.toNat_inj.1 (Nat.add_right_cancel hsum)
    exact hget

end

-- ===================================================== whole captures

section
variable {table : Table} {images : List LoadedImage} {image : LoadedImage}
  {statics : List UInt64}

/-- Every exported address comes back as the symbol that stands there, in
the order of the addresses and as often. -/
theorem map_some_symbols_exported (hmem : image ∈ images)
    (hexported : ∀ static ∈ statics, static ∈ table.addresses)
    (hwithin : ∀ static ∈ statics, Within images image static) :
    (Capture.resolve ⟨statics.map (· + image.slide), images⟩
        table).symbols.map some = statics.map table.get? := by
  rw [(symbols_resolve _ table).2]
  dsimp only
  rw [List.map_map]
  -- address by address, as each is resolved by itself
  induction statics with
  | nil => rfl
  | cons static rest ih =>
      have hrest := ih
        (fun a ha => hexported a (List.mem_cons_of_mem _ ha))
        (fun a ha => hwithin a (List.mem_cons_of_mem _ ha))
      obtain ⟨symbol, hget⟩ :=
        Table.mem_addresses_iff.1 (hexported static List.mem_cons_self)
      have hfound := (hwithin static
        List.mem_cons_self).symbol?_attributionOf table hmem
      rw [List.map_cons, List.filterMap_cons_some (b := symbol)
        (by rw [← hget]; exact hfound), List.map_cons, List.map_cons, hrest,
        hget]

/-- Each address of the table has a symbol, and so none is dropped. -/
theorem dropped_exported (hmem : image ∈ images)
    (hexported : ∀ static ∈ statics, static ∈ table.addresses)
    (hwithin : ∀ static ∈ statics, Within images image static) :
    (Capture.resolve ⟨statics.map (· + image.slide), images⟩
        table).stats.dropped = 0 := by
  have htotal := total_resolve
    ⟨statics.map (· + image.slide), images⟩ table
  have hsymbols := map_some_symbols_exported hmem hexported hwithin
  -- as many symbols as addresses, so there is no room for any that was dropped
  have hlength := congrArg List.length hsymbols
  rw [List.length_map, List.length_map] at hlength
  rw [(meets_resolve _ table).resolved, hlength,
    (meets_resolve _ table).total, List.length_map] at htotal
  unfold ResolutionStats.dropped
  omega

/-- Nothing remains when everything was observed. -/
theorem remaining_planOf_eq_nil {trace : List Symbol}
    (h : ∀ symbol ∈ table.symbols, symbol ∈ trace) (rule : Eligibility)
    (order : RemainingOrder) {entries : List (UInt64 × Symbol)}
    (hentries : entries.Perm table.toList) :
    (Order.planOf rule order entries trace).file.remaining = [] := by
  obtain ⟨tail, htail, hplan⟩ :=
    Order.exists_planOf_eq_plan rule order hentries trace
  have hnames : Order.names ((Order.plan rule table.symbols tail
      trace).remaining.map Order.Entry.symbol) = [] := by
    -- a name in the tail would be one of the table that the trace lacks
    refine List.eq_nil_iff_forall_not_mem.2 fun name hname => ?_
    obtain ⟨hin, hnot⟩ := (Order.mem_names_remaining htail _ name).1 hname
    obtain ⟨symbol, hsymbol, rfl⟩ := List.mem_map.1 hin
    obtain ⟨hlisted, hadmits⟩ := List.mem_filter.1 hsymbol
    refine hnot (List.mem_map_of_mem ?_)
    exact List.mem_filter.2 ⟨h symbol hlisted, hadmits⟩
  rw [Order.Plan.file, hplan]
  simpa [Order.names] using hnames

/-- For every table, and all images of which one is that of the table:
addresses of the table, in any order and any number, that lie within the
image once its slide has moved them resolve to the symbols that stand at
them, one by one, and none is dropped. If all of the table are among them,
then nothing remains behind the separator of any order file, whatever may
be ordered and however the table is enumerated. -/
theorem resolve_exported (hmem : image ∈ images)
    (hexported : ∀ static ∈ statics, static ∈ table.addresses)
    (hwithin : ∀ static ∈ statics, Within images image static) :
    let capture : Capture := ⟨statics.map (· + image.slide), images⟩
    let resolution := capture.resolve table
    resolution.symbols.map some = statics.map table.get?
      ∧ resolution.stats.dropped = 0
      ∧ ((∀ static ∈ table.addresses, static ∈ statics) →
        ∀ rule order entries, entries.Perm table.toList →
          (Order.planOf rule order entries
            resolution.symbols).file.remaining = []) := by
  intro capture resolution
  have hsymbols : resolution.symbols.map some = statics.map table.get? :=
    map_some_symbols_exported hmem hexported hwithin
  refine ⟨hsymbols, dropped_exported hmem hexported hwithin, ?_⟩
  intro hall rule order entries hentries
  -- nothing remains where the trace has every symbol of the table
  refine remaining_planOf_eq_nil (fun symbol hsymbol => ?_) rule order
    hentries
  obtain ⟨static, hget⟩ := Table.mem_symbols_iff.1 hsymbol
  have hstatic := hall static (Table.mem_addresses_iff.2 ⟨symbol, hget⟩)
  have hsome : some symbol ∈ resolution.symbols.map some := by
    rw [hsymbols, ← hget]
    exact List.mem_map_of_mem hstatic
  simpa using hsome

end

/-- Three images, of which the second is that of a table. -/
def neighbourImages : List LoadedImage :=
  [⟨"/above", 0x5051, 0x5051⟩, ⟨"/app", 0x5000, 0x4000⟩,
    ⟨"/below", 0x4fff, 0⟩]

/-- All of the table of shared names, forwards and backwards, between two
images that leave no room to spare. -/
theorem resolve_exported_neighbours :
    let table := Order.sharedNameTable
    let image : LoadedImage := ⟨"/app", 0x5000, 0x4000⟩
    let statics := table.addresses ++ table.addresses.reverse
    let capture : Capture :=
      ⟨statics.map (· + image.slide), neighbourImages⟩
    image ∈ neighbourImages
      ∧ (∀ static ∈ statics, static ∈ table.addresses)
      ∧ (∀ static ∈ statics, Within neighbourImages image static)
      ∧ (capture.resolve table).symbols.map some
        = statics.map table.get?
      ∧ (capture.resolve table).stats.dropped = 0
      ∧ (Order.planOf ⟨["libAds"]⟩ .unspecified table.toList
          (capture.resolve table).symbols).file.remaining = [] := by
  intro table image statics capture
  have hmem : image ∈ neighbourImages := by decide
  have hexported : ∀ static ∈ statics, static ∈ table.addresses := by
    intro static hstatic
    simpa [statics] using hstatic
  have hall : statics.all (fun static =>
      Within neighbourImages image static) = true := by
    decide
  have hwithin : ∀ static ∈ statics,
      Within neighbourImages image static :=
    fun static hstatic => by simpa using List.all_eq_true.1 hall _ hstatic
  obtain ⟨hsymbols, hdropped, hremaining⟩ :=
    resolve_exported hmem hexported hwithin
  refine ⟨hmem, hexported, hwithin, hsymbols, hdropped, ?_⟩
  exact hremaining (fun static hstatic => List.mem_append_left _ hstatic)
    ⟨["libAds"]⟩ .unspecified table.toList (List.Perm.refl _)

end Resolution

end LinkOrder
