import Galley.Enrich.Walk

/-!
Images. A local image is handed to the host, which serves it in a fitting size: its address moves to
a data attribute and it gets the size of a placeholder. An image from elsewhere is loaded when it is
needed, and one without an address is replaced by a drawing that says so.
-/

set_option autoImplicit false
set_option relaxedAutoImplicit false

namespace Galley.Enrich

open Html

/-- The drawing in place of an image without an address. -/
def missingImage : List Char :=
  ("data:image/svg+xml,%3Csvg xmlns=\"http://www.w3.org/2000/svg\" width=\"400\" height=\"300\"" ++
    "%3E%3Crect fill=\"%23ddd\" width=\"400\" height=\"300\"/%3E%3Ctext x=\"50%25\" y=\"50%25\" " ++
    "text-anchor=\"middle\" fill=\"%23999\"%3EImage not found%3C/text%3E%3C/svg%3E").toList

/-- Where an image is served from. -/
inductive ImageSource where
  | localPath
  | external
  | cloudinary
deriving DecidableEq, Repr, Inhabited

/-- Whether a text stands somewhere in another. -/
def occursIn (part : List Char) : List Char → Bool
  | [] => part.isEmpty
  | c :: rest => part.isPrefixOf (c :: rest) || occursIn part rest

/-- Whether an address leads to another host. -/
def isExternal (src : List Char) : Bool :=
  "http://".toList.isPrefixOf src || "https://".toList.isPrefixOf src || "//".toList.isPrefixOf src

/-- Where an image with the given address is served from. -/
def imageSource (src : List Char) : ImageSource :=
  if isExternal src then
    if occursIn "cloudinary.com".toList src then .cloudinary else .external
  else .localPath

/-- The size of placeholders. -/
structure ImageSize where
  width : Nat := 800
  height : Nat := 600
deriving DecidableEq, Repr, Inhabited

/-- The attributes of an image without an address. -/
def missingAttributes (attrs : Attributes) : Attributes :=
  ((attrs.set .src missingImage).set .alt "Missing image".toList).set (.data .error)
    "missing-src".toList

/-- The attributes of an image with an address. -/
def sourceAttributes (size : ImageSize) (src : List Char) (attrs : Attributes) : Attributes :=
  match imageSource src with
  | .localPath =>
    ((((attrs.erase .src).set (.data .nextImage) "true".toList).set (.data .src) src).set .loading
      "lazy".toList).set .width (Nat.toDigits 10 size.width) |>.set .height
        (Nat.toDigits 10 size.height)
  | .external => attrs.set .loading "lazy".toList
  | .cloudinary =>
    (attrs.set .loading "lazy".toList).set (.data .cloudinary) "true".toList

/-- The address of an image, unless it is blank. -/
def imageAddress? (attrs : Attributes) : Option (List Char) :=
  (attrs.get? .src).filter fun src => !Text.isBlankText src

/-- Adjusts the attributes of an image. -/
def adjustImage (size : ImageSize) : Visitor Unit := fun p id =>
  match p.doc.element? id with
  | none => (p, .ok .descend)
  | some (tag, attrs) =>
    if tag = "img".toList then
      match imageAddress? attrs with
      | none =>
        ({ p with
           doc := p.doc.setAttributes id (missingAttributes attrs)
           diagnostics := p.diagnostics.warn .missingImageSource }, .ok .skip)
      | some src =>
        let alt := (attrs.get? .alt).getD []
        let diagnostics :=
          if alt.isEmpty then p.diagnostics.warn (.missingAltText src) else p.diagnostics
        let attrs := sourceAttributes size src (attrs.set .alt alt)
        ({ p with doc := p.doc.setAttributes id attrs, diagnostics }, .ok .skip)
    else (p, .ok .descend)

/-- The pass that adjusts images. -/
def images (size : ImageSize) : Pass where
  name := "images".toList
  apply := walk "images".toList (adjustImage size) ()

end Galley.Enrich
