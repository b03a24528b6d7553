import Galley.Text.Blank
import Galley.Text.Escape

/-!
Attributes of elements. A key is one of the names that this library writes itself, or any other
name; the list of a tag keeps each key once, in the order in which the keys were first set.
-/

set_option autoImplicit false
set_option relaxedAutoImplicit false

namespace Galley.Html

/-- Keys of the data attributes that this library writes. -/
inductive DataKey where
  | castId
  | theme
  | speed
  | autoPlay
  | loop
  | cols
  | rows
  | mermaid
  | nextImage
  | src
  | cloudinary
  | error
  | footnoteRef
  | footnoteBackref
  | footnotes
deriving DecidableEq, Repr, Inhabited

/-- Keys of attributes. -/
inductive AttributeKey where
  | id
  | className
  | href
  | src
  | alt
  | title
  | loading
  | width
  | height
  | align
  | start
  | type
  | disabled
  | checked
  | data (key : DataKey)
  | other (name : List Char)
deriving DecidableEq, Repr, Inhabited

/-- The name of a data attribute. -/
def DataKey.name : DataKey → List Char
  | .castId => "data-cast-id".toList
  | .theme => "data-theme".toList
  | .speed => "data-speed".toList
  | .autoPlay => "data-auto-play".toList
  | .loop => "data-loop".toList
  | .cols => "data-cols".toList
  | .rows => "data-rows".toList
  | .mermaid => "data-mermaid".toList
  | .nextImage => "data-next-image".toList
  | .src => "data-src".toList
  | .cloudinary => "data-cloudinary".toList
  | .error => "data-error".toList
  | .footnoteRef => "data-footnote-ref".toList
  | .footnoteBackref => "data-footnote-backref".toList
  | .footnotes => "data-footnotes".toList

/-- All data keys. -/
def DataKey.all : List DataKey :=
  [.castId, .theme, .speed, .autoPlay, .loop, .cols, .rows, .mermaid, .nextImage, .src,
    .cloudinary, .error, .footnoteRef, .footnoteBackref, .footnotes]

namespace AttributeKey

/-- The name of an attribute as it is written. -/
def name : AttributeKey → List Char
  | .id => "id".toList
  | .className => "class".toList
  | .href => "href".toList
  | .src => "src".toList
  | .alt => "alt".toList
  | .title => "title".toList
  | .loading => "loading".toList
  | .width => "width".toList
  | .height => "height".toList
  | .align => "align".toList
  | .start => "start".toList
  | .type => "type".toList
  | .disabled => "disabled".toList
  | .checked => "checked".toList
  | .data key => key.name
  | .other name => name

/-- The keys that have a constructor of their own. -/
def known : List AttributeKey :=
  [.id, .className, .href, .src, .alt, .title, .loading, .width, .height, .align, .start, .type,
    .disabled, .checked] ++ DataKey.all.map .data

/-- The key with a name: a known one if there is one. -/
def ofName (name : List Char) : AttributeKey :=
  (known.find? (·.name == name)).getD (.other name)

/-- Attributes that are written without a value. -/
def isBoolean : AttributeKey → Bool
  | .disabled | .checked | .data .footnoteRef | .data .footnoteBackref | .data .footnotes => true
  | _ => false

end AttributeKey

/-- The attributes of an element, in order. -/
structure Attributes where
  entries : List (AttributeKey × List Char) := []
deriving DecidableEq, Repr, Inhabited

/-- Sets the value of a key in a list: in place if the key is there, or else at the end. -/
def setEntry (key : AttributeKey) (value : List Char) :
    List (AttributeKey × List Char) → List (AttributeKey × List Char)
  | [] => [(key, value)]
  | entry :: rest =>
    if entry.1 = key then (entry.1, value) :: rest else entry :: setEntry key value rest

namespace Attributes

/-- No attributes. -/
def empty : Attributes := {}

/-- The value of a key. -/
def get? (attrs : Attributes) (key : AttributeKey) : Option (List Char) :=
  attrs.entries.lookup key

/-- Whether a key has a value. -/
def contains (attrs : Attributes) (key : AttributeKey) : Bool :=
  attrs.entries.any (·.1 == key)

/-- Sets a value; a key that is there keeps its place. -/
def set (attrs : Attributes) (key : AttributeKey) (value : List Char) : Attributes :=
  ⟨setEntry key value attrs.entries⟩

/-- Sets a value if there is one. -/
def setIf (attrs : Attributes) (key : AttributeKey) (value : Option (List Char)) : Attributes :=
  match value with
  | some value => attrs.set key value
  | none => attrs

/-- Removes a key. -/
def erase (attrs : Attributes) (key : AttributeKey) : Attributes :=
  ⟨attrs.entries.eraseP (·.1 == key)⟩

/-- Attributes from pairs; a repeated key takes its last value and its first place. -/
def ofList (pairs : List (AttributeKey × List Char)) : Attributes :=
  pairs.foldl (fun attrs (key, value) => attrs.set key value) empty

/-- The number of attributes. -/
def size (attrs : Attributes) : Nat := attrs.entries.length

/-- The classes, in order. -/
def classes (attrs : Attributes) : List (List Char) :=
  Text.wordsBy Text.isAsciiBlank ((attrs.get? .className).getD [])

/-- Whether a class is listed. -/
def hasClass (attrs : Attributes) (name : List Char) : Bool :=
  attrs.classes.contains name

/-- Adds a class at the end, unless it is listed. -/
def addClass (attrs : Attributes) (name : List Char) : Attributes :=
  if attrs.hasClass name then attrs
  else
    match attrs.get? .className with
    | none | some [] => attrs.set .className name
    | some classes => attrs.set .className (classes ++ ' ' :: name)

end Attributes

/-- An attribute as it is written, with a blank before it. -/
def writeAttribute (entry : AttributeKey × List Char) : List Char :=
  if entry.1.isBoolean then ' ' :: entry.1.name
  else ' ' :: entry.1.name ++ '=' :: '"' :: Text.escapeAttribute entry.2 ++ ['"']

/-- The start tag of an element. -/
def startTag (tag : List Char) (attrs : Attributes) : List Char :=
  '<' :: tag ++ attrs.entries.flatMap writeAttribute ++ ['>']

/-- The end tag of an element. -/
def endTag (tag : List Char) : List Char :=
  '<' :: '/' :: tag ++ ['>']

/-- Elements that have no content and no end tag. -/
def voidElements : List (List Char) :=
  ["area".toList, "base".toList, "br".toList, "col".toList, "embed".toList, "hr".toList,
    "img".toList, "input".toList, "link".toList, "meta".toList, "source".toList, "track".toList,
    "wbr".toList]

/-- Whether a tag is that of a void element. -/
def isVoid (tag : List Char) : Bool := voidElements.contains tag

/-- The level of a heading element. -/
def headingLevel? (tag : List Char) : Option Nat :=
  match tag with
  | ['h', '1'] => some 1
  | ['h', '2'] => some 2
  | ['h', '3'] => some 3
  | ['h', '4'] => some 4
  | ['h', '5'] => some 5
  | ['h', '6'] => some 6
  | _ => none

end Galley.Html
