/-
From addresses of a run to symbols. An address belongs to the image that
was loaded highest among those not above it, and of images loaded at one
address to the first listed. The image's slide leads back to an address of
the link map, at which a symbol may or may not stand. What becomes of an
address is one value, and the symbols, the counts and the records of a
resolution are all read off these values.
-/
import LinkOrder.Capture
import LinkOrder.LinkMap.Table
import LinkOrder.Log.Record
import LinkOrder.Numeral.Hex

namespace LinkOrder

/-- What becomes of one address of a capture. -/
inductive Attribution where
  /-- No image was loaded at or below the address. -/
  | noImage
  /-- The image of the address has no symbol there. -/
  | noSymbol (image : LoadedImage)
  /-- The symbol at the address. -/
  | symbol (symbol : Symbol)
deriving DecidableEq, Repr

namespace Attribution

/-- The symbol that was found, if one was. -/
def symbol? : Attribution → Option Symbol
  | symbol s => some s
  | _ => none

/-- Whether the address was outside all images. -/
def isNoImage : Attribution → Bool
  | noImage => true
  | _ => false

/-- Whether the address had an image but no symbol. -/
def isNoSymbol : Attribution → Bool
  | noSymbol _ => true
  | _ => false

end Attribution

namespace Resolution

/-- The images, the highest load address first; images of one address
stay in order. -/
def byLoadAddress (images : List LoadedImage) : List LoadedImage :=
  images.mergeSort fun a b => b.loadAddress ≤ a.loadAddress

/-- The first image that was not loaded above the address. -/
def owner? (images : List LoadedImage) (address : UInt64) :
    Option LoadedImage :=
  images.find? fun image => image.loadAddress ≤ address

/-- The address of the link map to which an image's slide leads back, if
the address is not below the slide. -/
def staticAddress? (image : LoadedImage) (address : UInt64) :
    Option UInt64 :=
  if image.slide ≤ address then some (address - image.slide) else none

/-- The symbol of an address in its image. -/
def lookup? (table : Table) (image : LoadedImage) (address : UInt64) :
    Option Symbol :=
  match staticAddress? image address with
  | some static => table.get? static
  | none => none

/-- What becomes of an address, given the images by descending load
address. -/
def attributionOf (table : Table) (images : List LoadedImage)
    (address : UInt64) : Attribution :=
  match owner? images address with
  | none => .noImage
  | some image =>
      match lookup? table image address with
      | some symbol => .symbol symbol
      | none => .noSymbol image

end Resolution

/-- The addresses of a capture with what became of them. -/
structure Resolution where
  attributions : List (UInt64 × Attribution)
deriving DecidableEq, Repr

/-- How many addresses a resolution dropped, and why. -/
structure ResolutionStats where
  total : Nat
  resolved : Nat
  noImage : Nat
  missingSymbol : Nat
deriving DecidableEq, Repr

/-- The number of addresses without a symbol. -/
def ResolutionStats.dropped (stats : ResolutionStats) : Nat :=
  stats.noImage + stats.missingSymbol

/-- Resolves the addresses of a capture. -/
def Capture.resolve (capture : Capture) (table : Table) : Resolution :=
  let images := Resolution.byLoadAddress capture.loadedImages
  ⟨capture.addresses.map fun address =>
    (address, Resolution.attributionOf table images address)⟩

namespace Resolution

/-- The symbols that were found, in the order of the addresses. -/
def symbols (resolution : Resolution) : List Symbol :=
  resolution.attributions.filterMap fun (_, outcome) => outcome.symbol?

/-- The counts of a resolution. -/
def stats (resolution : Resolution) : ResolutionStats where
  total := resolution.attributions.length
  resolved := resolution.symbols.length
  noImage := resolution.attributions.countP fun (_, o) => o.isNoImage
  missingSymbol := resolution.attributions.countP fun (_, o) => o.isNoSymbol

-- ============================================================= records

/-- What is said about one address. -/
def addressRecords (address : UInt64) : Attribution → List Log.Record
  | .noImage =>
      [⟨.debug, .resolver,
        "No loaded image contains " ++ Numeral.formatAddress address⟩]
  | .noSymbol image =>
      [⟨.debug, .resolver, "Missing symbol at "
        ++ Numeral.formatAddress (address - image.slide)
        ++ " (" ++ image.path ++ ")"⟩]
  | .symbol _ => []

/-- What a resolution says. -/
def records (resolution : Resolution) : List Log.Record :=
  let stats := resolution.stats
  resolution.attributions.flatMap (fun (address, outcome) =>
      addressRecords address outcome)
    ++ (if stats.dropped = 0 then []
      else
        [⟨.warn, .resolver, "Dropped " ++ toString stats.dropped ++ " of "
          ++ toString stats.total ++ " addresses ("
          ++ toString stats.noImage ++ " outside any image, "
          ++ toString stats.missingSymbol ++ " without a symbol)"⟩])
    ++ [⟨.info, .resolver,
      "Resolved " ++ toString stats.resolved ++ " addresses to symbols"⟩]

end Resolution

end LinkOrder
