/-
Captures as JSON. What is read of a text is settled by the value that the
text spells (`Json.Tree.IsCapture`): a record of addresses and images in
which every address, load address and slide is a whole numeral of exactly
that number. Numerals that 64 bits do not hold, that have a sign, a point
or an exponent are refused where a number of the capture is expected, so
nothing wraps and nothing is rounded.

Captures that are written are spelled by objects with the names of their
fields, whatever paths say, and so they are read back as they were.
-/
import LinkOrder.Capture
import LinkOrder.Proofs.Json.Parts
import LinkOrder.Proofs.Json.Records

namespace LinkOrder

open Json

-- ============================================================ meanings

/-- The names of the fields of an image. -/
def LoadedImage.fieldNames : List String :=
  ["path", "loadAddress", "slide"]

/-- The names of the fields of a capture. -/
def Capture.fieldNames : List String := ["addresses", "loadedImages"]

/-- The value is a record of this image. -/
def Json.Tree.IsImage (tree : Tree) (image : LoadedImage) : Prop :=
  ∃ path loadAddress slide,
    tree.parts? LoadedImage.fieldNames = some [path, loadAddress, slide]
      ∧ path.string? = some image.path
      ∧ loadAddress.IsNumber image.loadAddress
      ∧ slide.IsNumber image.slide

/-- The value is a record of this capture, address by address and image by
image. -/
def Json.Tree.IsCapture (tree : Tree) (capture : Capture) : Prop :=
  ∃ addresses images,
    tree.parts? Capture.fieldNames = some [.list addresses, .list images]
      ∧ List.Forall₂ Tree.IsNumber addresses capture.addresses
      ∧ List.Forall₂ Tree.IsImage images capture.loadedImages

/-- The text spells a value that is a record of the capture. This says
what a capture looks like without reading it: it rests on the grammar of
JSON alone. -/
def Capture.SpelledBy (capture : Capture) (text : String) : Prop :=
  ∃ tree, Document text.toList tree ∧ tree.IsCapture capture

/-- The numerals of a capture: those that stand for an address, a load
address or a slide. -/
inductive Capture.HasNumeral (tree : Tree) (literal : Literal) : Prop
  | address {addresses : List Tree} {images : Tree}
      (hparts : tree.parts? Capture.fieldNames
        = some [.list addresses, images])
      (hliteral : .number literal ∈ addresses)
  | loadAddress {addresses image path slide : Tree} {images : List Tree}
      (hparts : tree.parts? Capture.fieldNames
        = some [addresses, .list images])
      (himage : image ∈ images)
      (hfields : image.parts? LoadedImage.fieldNames
        = some [path, .number literal, slide])
  | slide {addresses image path loadAddress : Tree} {images : List Tree}
      (hparts : tree.parts? Capture.fieldNames
        = some [addresses, .list images])
      (himage : image ∈ images)
      (hfields : image.parts? LoadedImage.fieldNames
        = some [path, loadAddress, .number literal])

-- ============================================================== images

namespace LoadedImage

def pathSlot : Slot Partial :=
  .string "path" (·.path) (fun image path => { image with path := path })
    fun _ _ => rfl

def loadAddressSlot : Slot Partial :=
  .natural "loadAddress" (·.loadAddress)
    (fun image address => { image with loadAddress := address })
    fun _ _ => rfl

def slideSlot : Slot Partial :=
  .natural "slide" (·.slide)
    (fun image slide => { image with slide := slide }) fun _ _ => rfl

/-- The fields of an image, as they are filled. -/
def layout : Layout Partial where
  slots := [pathSlot, loadAddressSlot, slideSlot]
  apart := by
    simp only [List.pairwise_cons, List.forall_mem_cons]
    refine ⟨⟨?_, ?_, nofun⟩, ⟨?_, nofun⟩, nofun, .nil⟩
    · exact ⟨by decide, fun _ _ => rfl, fun _ _ => rfl⟩
    · exact ⟨by decide, fun _ _ => rfl, fun _ _ => rfl⟩
    · exact ⟨by decide, fun _ _ => rfl, fun _ _ => rfl⟩
  ext {state filled} h := by
    simp only [List.forall_mem_cons] at h
    obtain ⟨hpath, hloadAddress, hslide, -⟩ := h
    cases state
    cases filled
    cases hpath
    cases hloadAddress
    cases hslide
    rfl

/-- The state that holds all of an image. -/
def full (image : LoadedImage) : Partial :=
  ⟨some image.path, some image.loadAddress, some image.slide⟩

/-- Nothing is left out of an image that is complete. -/
theorem complete_eq_ok_iff {filled : Partial} {image : LoadedImage} :
    filled.complete = .ok image ↔ filled = image.full := by
  unfold Partial.complete full
  obtain ⟨path, loadAddress, slide⟩ := filled
  obtain ⟨path', loadAddress', slide'⟩ := image
  cases path <;> cases loadAddress <;> cases slide <;> simp

/-- Images are read as what values mean for their fields. -/
theorem faithful_image :
    Faithful shape.reader (shape.means? layout.slots) :=
  Shape.faithful rfl

theorem get_blank : ∀ slot ∈ layout.slots, slot.get shape.blank = none := by
  simp only [layout, List.forall_mem_cons]
  exact ⟨rfl, rfl, rfl, nofun⟩

theorem isSome_get_full (image : LoadedImage) :
    ∀ slot ∈ layout.slots, (slot.get image.full).isSome := by
  simp only [layout, List.forall_mem_cons]
  exact ⟨rfl, rfl, rfl, nofun⟩

/-- What is written for an image means it. -/
theorem inscribed_image :
    Inscribed LoadedImage.write (shape.means? layout.slots) :=
  fun image => layout.spells_members get_blank rfl image.isSome_get_full

/-- What values mean as images. -/
theorem means?_eq_some_iff {tree : Tree} {image : LoadedImage} :
    shape.means? layout.slots tree = some image
      ↔ tree.IsImage image := by
  rw [layout.means?_eq_some_iff rfl get_blank
    (fun _ => complete_eq_ok_iff) image.isSome_get_full]
  have hpath : ∀ part, pathSlot.Holds image.full part
      ↔ part.string? = some image.path := fun _ => Slot.holds_iff rfl
  have hloadAddress : ∀ part, loadAddressSlot.Holds image.full part
      ↔ part.IsNumber image.loadAddress := fun _ =>
    (Slot.holds_iff rfl).trans Tree.natural?_eq_some_iff
  have hslide : ∀ part, slideSlot.Holds image.full part
      ↔ part.IsNumber image.slide := fun _ =>
    (Slot.holds_iff rfl).trans Tree.natural?_eq_some_iff
  show (∃ parts, tree.parts? fieldNames = some parts
    ∧ List.Forall₂ (fun slot part => slot.Holds image.full part)
      [pathSlot, loadAddressSlot, slideSlot] parts) ↔ _
  simp only [List.forall₂_cons_left_iff, List.forall₂_nil_left_iff, hpath,
    hloadAddress, hslide]
  constructor
  · rintro ⟨_, hparts, path, _, hone, ⟨loadAddress, _, htwo,
      ⟨slide, _, hthree, rfl, rfl⟩, rfl⟩, rfl⟩
    exact ⟨path, loadAddress, slide, hparts, hone, htwo, hthree⟩
  · rintro ⟨path, loadAddress, slide, hparts, hone, htwo, hthree⟩
    exact ⟨_, hparts, path, _, hone, ⟨loadAddress, _, htwo,
      ⟨slide, _, hthree, rfl, rfl⟩, rfl⟩, rfl⟩

end LoadedImage

-- ============================================================ captures

namespace Capture

variable {capture : Capture}

def addressesSlot : Slot Partial :=
  .list "addresses" (·.addresses)
    (fun capture addresses => { capture with addresses := addresses })
    (fun _ _ => rfl) faithful_natural inscribed_natural

def loadedImagesSlot : Slot Partial :=
  .list "loadedImages" (·.loadedImages)
    (fun capture images => { capture with loadedImages := images })
    (fun _ _ => rfl) LoadedImage.faithful_image LoadedImage.inscribed_image

/-- The fields of a capture, as they are filled. -/
def layout : Layout Partial where
  slots := [addressesSlot, loadedImagesSlot]
  apart := by
    simp only [List.pairwise_cons, List.forall_mem_cons]
    refine ⟨⟨?_, nofun⟩, nofun, .nil⟩
    exact ⟨by decide, fun _ _ => rfl, fun _ _ => rfl⟩
  ext {state filled} h := by
    simp only [List.forall_mem_cons] at h
    obtain ⟨haddresses, himages, -⟩ := h
    cases state
    cases filled
    cases haddresses
    cases himages
    rfl

/-- The state that holds all of a capture. -/
def full (capture : Capture) : Partial :=
  ⟨some capture.addresses, some capture.loadedImages⟩

/-- Nothing is left out of a capture that is complete. -/
theorem complete_eq_ok_iff {filled : Partial} :
    filled.complete = .ok capture ↔ filled = capture.full := by
  unfold Partial.complete full
  obtain ⟨addresses, images⟩ := filled
  obtain ⟨addresses', images'⟩ := capture
  cases addresses <;> cases images <;> simp

theorem get_blank : ∀ slot ∈ layout.slots, slot.get shape.blank = none := by
  simp only [layout, List.forall_mem_cons]
  exact ⟨rfl, rfl, nofun⟩

theorem isSome_get_full (capture : Capture) :
    ∀ slot ∈ layout.slots, (slot.get capture.full).isSome := by
  simp only [layout, List.forall_mem_cons]
  exact ⟨rfl, rfl, nofun⟩

/-- Captures are read as what values mean for their fields. -/
theorem faithful_capture :
    Faithful shape.reader (shape.means? layout.slots) :=
  Shape.faithful rfl

/-- What is written for a capture means it. -/
theorem inscribed_capture :
    Inscribed (fun capture => writeObject (memberTexts layout.slots
      (full capture))) (shape.means? layout.slots) :=
  fun capture => layout.spells_members get_blank rfl capture.isSome_get_full

/-- What values mean as captures. -/
theorem means?_eq_some_iff {tree : Tree} :
    shape.means? layout.slots tree = some capture
      ↔ tree.IsCapture capture := by
  rw [layout.means?_eq_some_iff rfl get_blank
    (fun _ => complete_eq_ok_iff) capture.isSome_get_full]
  have haddresses : ∀ part, addressesSlot.Holds capture.full part
      ↔ ∃ items, part = .list items
        ∧ List.Forall₂ Tree.IsNumber items capture.addresses := by
    intro part
    have hitem : (fun item address => Tree.natural? item = some address)
        = Tree.IsNumber :=
      funext₂ fun _ _ => propext Tree.natural?_eq_some_iff
    rw [← hitem]
    exact (Slot.holds_iff rfl).trans Tree.list?_eq_some_iff
  have himages : ∀ part, loadedImagesSlot.Holds capture.full part
      ↔ ∃ items, part = .list items
        ∧ List.Forall₂ Tree.IsImage items capture.loadedImages := by
    intro part
    have hitem : (fun item image =>
          LoadedImage.shape.means? LoadedImage.layout.slots item
            = some image) = Tree.IsImage :=
      funext₂ fun _ _ => propext LoadedImage.means?_eq_some_iff
    rw [← hitem]
    exact (Slot.holds_iff rfl).trans Tree.list?_eq_some_iff
  show (∃ parts, tree.parts? fieldNames = some parts
    ∧ List.Forall₂ (fun slot part => slot.Holds capture.full part)
      [addressesSlot, loadedImagesSlot] parts) ↔ _
  simp only [List.forall₂_cons_left_iff, List.forall₂_nil_left_iff,
    haddresses, himages]
  constructor
  · rintro ⟨_, hparts, _, _, ⟨addresses, rfl, hone⟩,
      ⟨_, _, ⟨images, rfl, htwo⟩, rfl, rfl⟩, rfl⟩
    exact ⟨addresses, images, hparts, hone, htwo⟩
  · rintro ⟨addresses, images, hparts, hone, htwo⟩
    exact ⟨_, hparts, _, _, ⟨addresses, rfl, hone⟩,
      ⟨_, _, ⟨images, rfl, htwo⟩, rfl, rfl⟩, rfl⟩

/-- A text that spells a value is read as the capture of which the value
is a record, and as no other. -/
theorem ofJson_eq_ok_iff {text : String} {tree : Tree}
    (h : Document text.toList tree) :
    ofJson text = .ok capture ↔ tree.IsCapture capture :=
  (faithful_capture.readWhole_iff h).trans means?_eq_some_iff

/-- A capture is read from the texts that spell it, and from no others. -/
theorem ofJson_eq_ok_iff_spelledBy {text : String} :
    ofJson text = .ok capture ↔ capture.SpelledBy text := by
  constructor
  · intro hread
    obtain ⟨tree, htext, hmeans⟩ :=
      faithful_capture.exists_of_readWhole hread
    exact ⟨tree, htext, means?_eq_some_iff.1 hmeans⟩
  · rintro ⟨tree, htext, hcapture⟩
    exact (ofJson_eq_ok_iff htext).2 hcapture

/-- A text is refused exactly if it spells no capture at all. -/
theorem exists_ofJson_eq_error_iff {text : String} :
    (∃ e, ofJson text = .error e)
      ↔ ∀ capture : Capture, ¬ capture.SpelledBy text := by
  simp only [← ofJson_eq_ok_iff_spelledBy]
  cases ofJson text with
  | error e => simp
  | ok capture => simp

/-- Every numeral of a capture has the exact value of a number of 64
bits. -/
theorem HasNumeral.exists_integer {tree : Tree} {literal : Literal}
    (h : HasNumeral tree literal) (hcapture : tree.IsCapture capture) :
    ∃ number : UInt64, literal.integer? = some (number.toNat : Int) := by
  obtain ⟨addresses, images, hparts, haddresses, himages⟩ := hcapture
  have hnumber : ∀ {number : UInt64},
      (Tree.number literal).IsNumber number →
        ∃ number : UInt64, literal.integer? = some (number.toNat : Int) := by
    rintro number ⟨_, ⟨⟩, -, hvalue⟩
    exact ⟨number, hvalue⟩
  -- a value has its parts once, so both hypotheses speak of the same ones
  cases h with
  | address hparts' hliteral =>
      cases hparts.symm.trans hparts'
      obtain ⟨_, hexact⟩ := exists_of_forall₂ haddresses _ hliteral
      exact hnumber hexact
  | loadAddress hparts' himage hfields =>
      cases hparts.symm.trans hparts'
      obtain ⟨_, _, _, _, hfields', -, hexact, -⟩ :=
        exists_of_forall₂ himages _ himage
      cases hfields.symm.trans hfields'
      exact hnumber hexact
  | slide hparts' himage hfields =>
      cases hparts.symm.trans hparts'
      obtain ⟨_, _, _, _, hfields', -, -, hexact⟩ :=
        exists_of_forall₂ himages _ himage
      cases hfields.symm.trans hfields'
      exact hnumber hexact

/-- A text with a number beyond 64 bits is refused. -/
theorem HasNumeral.refused {text : String} {tree : Tree}
    {literal : Literal} {value : Int} (h : HasNumeral tree literal)
    (htext : Document text.toList tree)
    (hvalue : literal.integer? = some value)
    (hrange : ¬ (0 ≤ value ∧ value < UInt64.size)) :
    ∃ fault, ofJson text = .error fault := by
  cases hread : ofJson text with
  | error fault => exact ⟨fault, rfl⟩
  | ok read =>
      obtain ⟨number, hnumber⟩ :=
        h.exists_integer ((ofJson_eq_ok_iff htext).1 hread)
      rw [hvalue, Option.some.injEq] at hnumber
      have hlt := number.toNat_lt_size
      omega

/-- A capture is read back from its text. -/
theorem ofJson_toJson (capture : Capture) :
    ofJson capture.toJson = .ok capture :=
  inscribed_capture.readWhole faithful_capture capture

/-- Captures survive being written and read. What a text is read as is a
capture of exactly the numbers that it writes, and it is the same again
when it is written and read once more; texts in which a number of the
capture is beyond 64 bits are refused. -/
theorem ofJson_toJson_exact (capture : Capture) (text : String) :
    ofJson capture.toJson = .ok capture
      ∧ ((ofJson text).bind fun read => ofJson read.toJson) = ofJson text
      ∧ (ofJson text = .ok capture →
        ∃ tree, Document text.toList tree ∧ tree.IsCapture capture)
      ∧ ∀ tree, Document text.toList tree →
        (ofJson text = .ok capture ↔ tree.IsCapture capture)
          ∧ ∀ literal value, HasNumeral tree literal →
            literal.integer? = some value →
            ¬ (0 ≤ value ∧ value < UInt64.size) →
              ∃ fault, ofJson text = .error fault := by
  refine ⟨ofJson_toJson capture, ?_, ?_, ?_⟩
  · cases ofJson text with
    | error fault => rfl
    | ok read => exact ofJson_toJson read
  · exact ofJson_eq_ok_iff_spelledBy.1
  · intro tree htext
    refine ⟨ofJson_eq_ok_iff htext, fun literal value hnumeral => ?_⟩
    exact hnumeral.refused htext

/-- A path that needs escapes, and the greatest numbers. -/
def sample : Capture :=
  ⟨[0, 18446744073709551615],
    [⟨"/q\"\\\x07\n→", 18446744073709551615, 1⟩]⟩

/-- An address that is one too great. -/
def overflowing : String :=
  "\x7b\"addresses\":[18446744073709551616],\"loadedImages\":[]\x7d"

/-- The text is well-formed, and a number in it is too great. -/
theorem overflowing_spells :
    ∃ tree, Document overflowing.toList tree
      ∧ HasNumeral tree (.ofNat UInt64.size) := by
  obtain ⟨addresses, haddresses, hone⟩ := spells_writeString "addresses"
  obtain ⟨images, himages, htwo⟩ := spells_writeString "loadedImages"
  have hwritten : overflowing = String.ofList (writeObject
      [("addresses", writeList [(Literal.ofNat UInt64.size).text]),
        ("loadedImages", writeList [])]) := by
    decide +kernel
  rw [hwritten]
  refine ⟨.object [(addresses, .list [.number (.ofNat UInt64.size)]),
    (images, .list [])], document_of_spells (spells_writeObject ?_), ?_⟩
  · have hitems := spells_writeList (.cons (.number (.ofNat UInt64.size)) .nil)
    exact .cons ⟨haddresses, hitems⟩
      (.cons ⟨himages, spells_writeList .nil⟩ .nil)
  · have hparts : Tree.parts? fieldNames
          (.object [(addresses, .list [.number (.ofNat UInt64.size)]),
            (images, .list [])])
        = some [.list [.number (.ofNat UInt64.size)], .list []] := by
      simp [Tree.parts?, fieldNames, valuesOf, only?, hone, htwo]
    exact .address hparts List.mem_cons_self

/-- The greatest numbers and the escapes survive, and one more than the
greatest is refused. -/
theorem ofJson_toJson_exact_bounds :
    ofJson sample.toJson = .ok sample
      ∧ (∃ tree, Document sample.toJson.toList tree
        ∧ tree.IsCapture sample)
      ∧ ∃ fault, ofJson overflowing = .error fault := by
  obtain ⟨hread, -, hspelled, -⟩ :=
    ofJson_toJson_exact sample sample.toJson
  obtain ⟨tree, htext, hnumeral⟩ := overflowing_spells
  refine ⟨hread, hspelled hread, ?_⟩
  exact ((ofJson_toJson_exact sample overflowing).2.2.2 tree htext).2 _ _
    hnumeral (Literal.integer?_ofNat _) (by decide)

end Capture

end LinkOrder
