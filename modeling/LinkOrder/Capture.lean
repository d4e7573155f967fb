/-
Captures: what a run of the traced program left behind, the addresses in
the order in which they were first touched, and the images that were
loaded at the time. A capture is stored as JSON, a record of two fields.
-/
import LinkOrder.Json.Shape
import LinkOrder.Json.Writer
import LinkOrder.Storage.Failure

namespace LinkOrder

/-- A binary image in the traced process: where it was found, where it
was loaded, and how far its addresses were moved from those of its link
map. -/
structure LoadedImage where
  path : String
  loadAddress : UInt64
  slide : UInt64
deriving DecidableEq, Repr, Inhabited

/-- Addresses in the order of their first use, and the images to which
they may belong. -/
structure Capture where
  addresses : List UInt64
  loadedImages : List LoadedImage
deriving DecidableEq, Repr, Inhabited

-- ============================================================= reading

namespace LoadedImage

/-- An image of which some fields have been read. -/
structure Partial where
  path : Option String := none
  loadAddress : Option UInt64 := none
  slide : Option UInt64 := none
deriving Repr

/-- The image, or its first missing field. -/
def Partial.complete (image : Partial) : Except Json.Reason LoadedImage :=
  match image.path, image.loadAddress, image.slide with
  | some path, some loadAddress, some slide =>
      .ok ⟨path, loadAddress, slide⟩
  | none, _, _ => .error (.missingField "path")
  | _, none, _ => .error (.missingField "loadAddress")
  | _, _, none => .error (.missingField "slide")

/-- How an image is read from JSON. -/
def shape : Json.Shape Partial LoadedImage where
  name := "LoadedImage"
  blank := {}
  fields :=
    [ { name := "path"
        isFilled := fun image => image.path.isSome
        read := fun image =>
          Json.Reader.string.map fun path =>
            { image with path := some path } },
      { name := "loadAddress"
        isFilled := fun image => image.loadAddress.isSome
        read := fun image =>
          Json.Reader.natural.map fun address =>
            { image with loadAddress := some address } },
      { name := "slide"
        isFilled := fun image => image.slide.isSome
        read := fun image =>
          Json.Reader.natural.map fun slide =>
            { image with slide := some slide } } ]
  mayEndEarly := false
  finish := Partial.complete

/-- An image written as JSON. -/
def write (image : LoadedImage) : List Char :=
  Json.writeObject
    [("path", Json.writeString image.path),
      ("loadAddress", Json.writeNatural image.loadAddress),
      ("slide", Json.writeNatural image.slide)]

end LoadedImage

namespace Capture

/-- A capture of which some fields have been read. -/
structure Partial where
  addresses : Option (List UInt64) := none
  loadedImages : Option (List LoadedImage) := none
deriving Repr

/-- The capture, or its first missing field. -/
def Partial.complete (capture : Partial) : Except Json.Reason Capture :=
  match capture.addresses, capture.loadedImages with
  | some addresses, some loadedImages => .ok ⟨addresses, loadedImages⟩
  | none, _ => .error (.missingField "addresses")
  | _, none => .error (.missingField "loadedImages")

/-- How a capture is read from JSON. -/
def shape : Json.Shape Partial Capture where
  name := "CaptureResult"
  blank := {}
  fields :=
    [ { name := "addresses"
        isFilled := fun capture => capture.addresses.isSome
        read := fun capture =>
          (Json.Reader.list Json.Reader.natural).map fun addresses =>
            { capture with addresses := some addresses } },
      { name := "loadedImages"
        isFilled := fun capture => capture.loadedImages.isSome
        read := fun capture =>
          (Json.Reader.list LoadedImage.shape.reader).map fun images =>
            { capture with loadedImages := some images } } ]
  mayEndEarly := false
  finish := Partial.complete

/-- The capture that a JSON text holds. -/
def ofJson (text : String) : Except Json.Error Capture :=
  shape.reader.readWhole text

/-- A capture as JSON in compact form. -/
def toJson (capture : Capture) : String :=
  String.ofList (Json.writeObject
    [("addresses",
        Json.writeList (capture.addresses.map Json.writeNatural)),
      ("loadedImages",
        Json.writeList (capture.loadedImages.map LoadedImage.write))])

/-- Whether nothing was touched at all. -/
def isEmpty (capture : Capture) : Bool := capture.addresses.isEmpty

-- ============================================================== errors

/-- Why a capture cannot be had. -/
inductive Error where
  | notFound (path : String)
  | io (failure : Storage.Failure)
  | parse (error : Json.Error)
deriving DecidableEq, Repr

namespace Error

/-- What an error says. -/
def message : Error → String
  | notFound path => "Capture file not found: " ++ Text.quoted path
  | io failure => "IO error: " ++ failure.message
  | parse error => "Invalid capture payload: " ++ error.message

/-- What an error and its causes say. -/
def chain : Error → List String
  | notFound path => [message (notFound path)]
  | io failure => [message (io failure), failure.message]
  | parse error => [message (parse error), error.message]

end Error

end Capture

end LinkOrder
