/-
What a resolution does not depend on. Where a program and its images were
put in memory does not matter: move all addresses, load addresses and
slides by one distance and the same symbols are found (`resolve_shift`).
Nor does the order in which images are listed, as far as it is not what
tells two of one load address apart (`resolve_reordered`).

Both are facts on the owner of an address. Whether an image owns an
address is settled by comparing numbers to each of which the distance was
added, and by the first image of each load address; and the slide that the
owner undoes has grown by as much as the address has. Nothing may wrap, up
to the highest address, and no more than that is asked.
-/
import LinkOrder.Pipeline
import LinkOrder.Proofs.Resolution.Attribution

namespace LinkOrder

-- ============================================================== moving

/-- The image, loaded farther up and slid as much farther. -/
def LoadedImage.shift (image : LoadedImage) (distance : UInt64) :
    LoadedImage where
  path := image.path
  loadAddress := image.loadAddress + distance
  slide := image.slide + distance

/-- The capture of the same run, farther up in memory. -/
def Capture.shift (capture : Capture) (distance : UInt64) : Capture where
  addresses := capture.addresses.map (· + distance)
  loadedImages := capture.loadedImages.map (·.shift distance)

/-- There is room above the number for it to be moved. -/
def HasRoom (number distance : UInt64) : Prop :=
  number.toNat + distance.toNat < UInt64.size

instance (number distance : UInt64) : Decidable (HasRoom number distance) :=
  inferInstanceAs (Decidable (_ < _))

/-- There is room above all that a capture is made of. -/
structure Capture.HasRoom (capture : Capture) (distance : UInt64) :
    Prop where
  addresses : ∀ address ∈ capture.addresses,
    LinkOrder.HasRoom address distance
  loadAddresses : ∀ image ∈ capture.loadedImages,
    LinkOrder.HasRoom image.loadAddress distance
  slides : ∀ image ∈ capture.loadedImages,
    LinkOrder.HasRoom image.slide distance

/-- What became of an address, farther up in memory. -/
def Attribution.shift (distance : UInt64) : Attribution → Attribution
  | noImage => noImage
  | noSymbol image => noSymbol (image.shift distance)
  | symbol s => symbol s

/-- A resolution, farther up in memory. -/
def Resolution.shift (resolution : Resolution) (distance : UInt64) :
    Resolution where
  attributions := resolution.attributions.map fun (address, outcome) =>
    (address + distance, outcome.shift distance)

section
variable {number other distance : UInt64}

/-- Where there is room, addition does not wrap. -/
theorem HasRoom.toNat_add (h : HasRoom number distance) :
    (number + distance).toNat = number.toNat + distance.toNat := by
  rw [UInt64.toNat_add]
  exact Nat.mod_eq_of_lt h

/-- Where nothing wraps, moving keeps the order. -/
theorem HasRoom.add_le_add_iff (h : HasRoom number distance)
    (h' : HasRoom other distance) :
    number + distance ≤ other + distance ↔ number ≤ other := by
  rw [UInt64.le_iff_toNat_le, UInt64.le_iff_toNat_le, h.toNat_add,
    h'.toNat_add]
  exact Nat.add_le_add_iff_right

/-- The same for the strict order, which is the other way around. -/
theorem HasRoom.add_lt_add_iff (h : HasRoom number distance)
    (h' : HasRoom other distance) :
    number + distance < other + distance ↔ number < other := by
  rw [← UInt64.not_le, ← UInt64.not_le, h'.add_le_add_iff h]

end

namespace Resolution

section
variable {images : List LoadedImage} {image : LoadedImage}
  {address distance : UInt64}

/-- An image that is moved along with an address still owns it. -/
theorem Owns.shift (haddress : HasRoom address distance)
    (himages : ∀ image ∈ images, HasRoom image.loadAddress distance)
    (h : Owns images address image) :
    Owns (images.map (·.shift distance)) (address + distance)
      (image.shift distance) := by
  obtain ⟨before, behind, rfl, hat, hbefore, hbehind⟩ := h
  have himage := himages image (by simp)
  refine ⟨before.map (·.shift distance), behind.map (·.shift distance),
    by simp, (himage.add_le_add_iff haddress).2 hat, ?_, ?_⟩
  · intro other hother hbelow
    obtain ⟨lower, hlower, rfl⟩ := List.mem_map.1 hother
    have hroom := himages lower (by simp [hlower])
    exact (hroom.add_lt_add_iff himage).2
      (hbefore lower hlower ((hroom.add_le_add_iff haddress).1 hbelow))
  · intro other hother hbelow
    obtain ⟨later, hlater, rfl⟩ := List.mem_map.1 hother
    have hroom := himages later (by simp [hlater])
    exact (hroom.add_le_add_iff himage).2
      (hbehind later hlater ((hroom.add_le_add_iff haddress).1 hbelow))

/-- The owner of a moved address is the owner, moved, or there is none as
before. -/
theorem owner?_shift (haddress : HasRoom address distance)
    (himages : ∀ image ∈ images, HasRoom image.loadAddress distance) :
    owner? (byLoadAddress (images.map (·.shift distance)))
        (address + distance)
      = (owner? (byLoadAddress images) address).map
          (·.shift distance) := by
  -- both answers move along: that there is none, and which it is
  cases howner : owner? (byLoadAddress images) address with
  | none =>
      have habove := owner?_byLoadAddress_eq_none_iff.1 howner
      refine owner?_byLoadAddress_eq_none_iff.2 fun moved hmoved => ?_
      obtain ⟨image, himage, rfl⟩ := List.mem_map.1 hmoved
      exact (haddress.add_lt_add_iff (himages image himage)).2
        (habove image himage)
  | some image =>
      have howns := owner?_byLoadAddress_eq_some_iff.1 howner
      exact owner?_byLoadAddress_eq_some_iff.2
        (howns.shift haddress himages)

/-- The slide that is undone has grown as much as the address. -/
theorem lookup?_shift (table : Table) (haddress : HasRoom address distance)
    (hslide : HasRoom image.slide distance) :
    lookup? table (image.shift distance) (address + distance)
      = lookup? table image address := by
  -- address and slide have both grown by the distance, so their difference has
  -- not
  have hstatic : staticAddress? (image.shift distance) (address + distance)
      = staticAddress? image address := by
    refine Option.ext fun static => ?_
    rw [staticAddress?_eq_some_iff, staticAddress?_eq_some_iff,
      haddress.toNat_add]
    show static.toNat + (image.slide + distance).toNat = _ ↔ _
    rw [hslide.toNat_add]
    omega
  unfold lookup?
  rw [hstatic]

/-- What becomes of an address moves along with it: its owner does, and the
symbol found is the same, since the static address is. -/
theorem attributionOf_shift (table : Table)
    (haddress : HasRoom address distance)
    (hloads : ∀ image ∈ images, HasRoom image.loadAddress distance)
    (hslides : ∀ image ∈ images, HasRoom image.slide distance) :
    attributionOf table (byLoadAddress (images.map (·.shift distance)))
        (address + distance)
      = (attributionOf table (byLoadAddress images) address).shift
          distance := by
  unfold attributionOf
  rw [owner?_shift haddress hloads]
  cases howner : owner? (byLoadAddress images) address with
  | none => rfl
  | some image =>
      have hmem : image ∈ images :=
        mem_byLoadAddress.1 (List.mem_of_find?_eq_some howner)
      have hlookup :=
        lookup?_shift table haddress (hslides image hmem)
      rw [Option.map_some]
      dsimp only
      rw [hlookup]
      cases lookup? table image address with
      | none => rfl
      | some symbol => rfl

end

/-- The resolution of a capture that was moved is the resolution of the
capture, moved. -/
theorem resolve_shift {capture : Capture} {distance : UInt64}
    (h : capture.HasRoom distance) (table : Table) :
    (capture.shift distance).resolve table
      = (capture.resolve table).shift distance := by
  unfold Capture.resolve Capture.shift shift
  dsimp only
  rw [List.map_map, List.map_map]
  congr 1
  refine List.map_congr_left fun address haddress => ?_
  exact congrArg (Prod.mk (address + distance))
    (attributionOf_shift table (h.addresses address haddress)
      h.loadAddresses h.slides)

section
variable (resolution : Resolution) (distance : UInt64)

/-- The symbols of a resolution do not show where it was. -/
theorem symbols_shift :
    (resolution.shift distance).symbols = resolution.symbols := by
  unfold symbols shift
  rw [List.filterMap_map]
  refine List.filterMap_congr fun row _ => ?_
  obtain ⟨address, outcome⟩ := row
  cases outcome <;> rfl

/-- Nor do its counts. -/
theorem stats_shift :
    (resolution.shift distance).stats = resolution.stats := by
  unfold stats
  rw [symbols_shift]
  unfold shift
  dsimp only
  rw [List.length_map, List.countP_map, List.countP_map]
  congr 1
  · refine List.countP_congr fun row _ => ?_
    obtain ⟨address, outcome⟩ := row
    cases outcome <;> rfl
  · refine List.countP_congr fun row _ => ?_
    obtain ⟨address, outcome⟩ := row
    cases outcome <;> rfl

end

-- ========================================================== reordering

/-- The images in another order, those of one load address in the same. -/
structure Reordered (images reordered : List LoadedImage) : Prop where
  perm : reordered.Perm images
  stable : ∀ load, reordered.filter (fun image => image.loadAddress = load)
    = images.filter fun image => image.loadAddress = load

section
variable {images reordered : List LoadedImage}

/-- What makes an image the owner is its load address and, among those of
the same, its place. -/
theorem Reordered.owns_iff (h : Reordered images reordered)
    {address : UInt64} {image : LoadedImage} :
    Owns reordered address image ↔ Owns images address image := by
  -- which image is the first of its load address is all that the order settles
  have hfirst : ∀ load, reordered.find? (fun i => i.loadAddress = load)
      = images.find? fun i => i.loadAddress = load := by
    intro load
    rw [← List.head?_filter, h.stable, List.head?_filter]
  rw [Resolution.owns_iff, Resolution.owns_iff, hfirst]
  simp only [h.perm.mem_iff]

/-- The order of the images shows only where it has to. -/
theorem resolve_reordered (h : Reordered images reordered)
    (addresses : List UInt64) (table : Table) :
    Capture.resolve ⟨addresses, reordered⟩ table
      = Capture.resolve ⟨addresses, images⟩ table := by
  have howner : ∀ address, owner? (byLoadAddress reordered) address
      = owner? (byLoadAddress images) address := by
    intro address
    refine Option.ext fun image => ?_
    rw [owner?_byLoadAddress_eq_some_iff, owner?_byLoadAddress_eq_some_iff,
      h.owns_iff]
  unfold Capture.resolve attributionOf
  simp only [howner]

end

end Resolution

-- ========================================================== order files

/-- What a pipeline hands out: the order file and all counts. -/
structure Pipeline.Report where
  file : OrderFile
  scan : LinkMap.ScanStats
  resolution : ResolutionStats
  plan : Order.PlanStats
  symbolCount : Nat
deriving DecidableEq, Repr

/-- The report on an output. -/
def Pipeline.Output.report (output : Output) : Report where
  file := output.file
  scan := output.scan.stats
  resolution := output.resolution.stats
  plan := output.plan.stats
  symbolCount := output.symbolCount

/-- The output, had the table given its entries in this order. An order
that is left unspecified is settled anew in every run, and two reports can
be compared only if both are made for the same one. -/
def Pipeline.Output.listed (output : Output) (config : Config)
    (entries : List (UInt64 × Symbol)) : Output :=
  { output with
    plan := Order.planOf config.eligibility config.remainingOrder entries
      output.resolution.symbols }

/-- What is assembled goes by the order in which `toList` gives the table,
which is one of all that there may be. -/
theorem Pipeline.listed_assemble (config : Config) (scan : LinkMap.Scan)
    (capture : Capture) :
    (assemble config scan capture).listed config scan.table.toList
      = assemble config scan capture :=
  rfl

/-- Two captures that no table and no pipeline tells apart. -/
structure Capture.Alike (capture other : Capture) : Prop where
  symbols : ∀ table,
    (capture.resolve table).symbols = (other.resolve table).symbols
  stats : ∀ table,
    (capture.resolve table).stats = (other.resolve table).stats
  /-- However a table is enumerated, it gives both the same layout. -/
  plan : ∀ table rule order entries,
    Order.planOf rule order entries (capture.resolve table).symbols
      = Order.planOf rule order entries (other.resolve table).symbols
  /-- In whichever order a run comes upon the entries of its table, a run
  that comes upon them in that order reports the same on both. -/
  listed : ∀ config linkMap entries,
    (Pipeline.runInMemory config linkMap capture).map
        (fun output => (output.listed config entries).report)
      = (Pipeline.runInMemory config linkMap other).map
        fun output => (output.listed config entries).report
  /-- In particular in the order of `toList`. -/
  report : ∀ config linkMap,
    (Pipeline.runInMemory config linkMap capture).map
        Pipeline.Output.report
      = (Pipeline.runInMemory config linkMap other).map
        Pipeline.Output.report

/-- All that a pipeline takes from a capture are symbols and counts. -/
theorem Capture.Alike.of_resolve {capture other : Capture}
    (hsymbols : ∀ table,
      (capture.resolve table).symbols = (other.resolve table).symbols)
    (hstats : ∀ table,
      (capture.resolve table).stats = (other.resolve table).stats) :
    Alike capture other := by
  -- the report has no part of the capture but what is resolved
  have hassembled : ∀ (config : Config) (scan : LinkMap.Scan) entries,
      ((Pipeline.assemble config scan capture).listed config entries).report
        = ((Pipeline.assemble config scan other).listed config
          entries).report := by
    intro config scan entries
    unfold Pipeline.Output.report Pipeline.Output.file
      Pipeline.Output.listed Pipeline.assemble
    dsimp only
    rw [hsymbols, hstats]
    rfl
  refine ⟨hsymbols, hstats, ?plan, ?listed, ?report⟩
  case plan =>
    intro table rule order entries
    rw [hsymbols]
  case listed =>
    intro config linkMap entries
    unfold Pipeline.runInMemory
    cases config.validate with
    | error reason => rfl
    | ok valid => exact congrArg Except.ok (hassembled config _ entries)
  case report =>
    intro config linkMap
    unfold Pipeline.runInMemory
    cases config.validate with
    | error reason => rfl
    | ok valid =>
        have hlisted := hassembled config
          (LinkMap.scanText config.eligibility linkMap)
          (LinkMap.scanText config.eligibility linkMap).table.toList
        rw [Pipeline.listed_assemble, Pipeline.listed_assemble] at hlisted
        exact congrArg Except.ok hlisted

/-- For every capture: if it is moved in memory by any distance for which
there is room, or its images are listed in any order that keeps those of
one load address as they were, then it is resolved to the same symbols
with the same counts, over every table; and a pipeline reports the same
order file and the same counts, for every configuration and link map and
every order in which the table of the link map may be enumerated. With an
unspecified order two runs may differ all the same, if they enumerate it
differently; that is then not for the capture. -/
theorem capture_alike (capture : Capture) :
    (∀ distance, capture.HasRoom distance →
        (capture.shift distance).Alike capture)
      ∧ ∀ reordered,
        Resolution.Reordered capture.loadedImages reordered →
          Capture.Alike ⟨capture.addresses, reordered⟩ capture := by
  constructor
  · intro distance hroom
    refine .of_resolve (fun table => ?_) fun table => ?_
    · rw [Resolution.resolve_shift hroom, Resolution.symbols_shift]
    · rw [Resolution.resolve_shift hroom, Resolution.stats_shift]
  · intro reordered hreordered
    have hresolve := Resolution.resolve_reordered hreordered
      capture.addresses
    exact .of_resolve
      (fun table => congrArg Resolution.symbols (hresolve table))
      (fun table => congrArg Resolution.stats (hresolve table))

/-- A capture with two images of one load address and one below them. -/
def twinCapture : Capture where
  addresses := [0x5010, 0x1000, 0x500]
  loadedImages :=
    [⟨"/app", 0x5000, 0x4000⟩, ⟨"/twin", 0x5000, 0x3000⟩,
      ⟨"/low", 0x1000, 0⟩]

/-- It may be moved up to the highest address, and its lowest image listed
first. -/
theorem capture_alike_twin :
    twinCapture.HasRoom 0xffffffffffffafef
      ∧ (twinCapture.shift 0xffffffffffffafef).addresses.head?
        = some 0xffffffffffffffff
      ∧ (twinCapture.shift 0xffffffffffffafef).Alike twinCapture
      ∧ Resolution.Reordered twinCapture.loadedImages
        [⟨"/low", 0x1000, 0⟩, ⟨"/app", 0x5000, 0x4000⟩,
          ⟨"/twin", 0x5000, 0x3000⟩]
      ∧ Capture.Alike
        ⟨[0x5010, 0x1000, 0x500],
          [⟨"/low", 0x1000, 0⟩, ⟨"/app", 0x5000, 0x4000⟩,
            ⟨"/twin", 0x5000, 0x3000⟩]⟩ twinCapture := by
  have haddresses : twinCapture.addresses.all (fun address =>
      LinkOrder.HasRoom address 0xffffffffffffafef) = true := by decide
  have hroom : twinCapture.HasRoom 0xffffffffffffafef :=
    ⟨by simpa using haddresses, by decide, by decide⟩
  have hreordered : Resolution.Reordered twinCapture.loadedImages
      [⟨"/low", 0x1000, 0⟩, ⟨"/app", 0x5000, 0x4000⟩,
        ⟨"/twin", 0x5000, 0x3000⟩] := by
    refine ⟨by decide, fun load => ?_⟩
    -- of the two load addresses one has a single image, and the others keep
    -- their order
    by_cases hlow : load = 0x1000
    · subst hlow
      decide
    · simp [twinCapture, List.filter_cons, Ne.symm hlow]
  obtain ⟨hmoved, hlisted⟩ := capture_alike twinCapture
  exact ⟨hroom, by decide, hmoved _ hroom, hreordered,
    hlisted _ hreordered⟩

end LinkOrder
