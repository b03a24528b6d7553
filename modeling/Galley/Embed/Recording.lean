import Galley.Decimal.Read
import Galley.Decimal.Shortest
import Galley.Html.Attributes
import Galley.Text.Quoted

/-!
Recordings of terminal sessions. An author names a recording in a block of options or in a
shortcode, and a page shows it as an empty element that carries the options in its attributes.
-/

set_option autoImplicit false
set_option relaxedAutoImplicit false

namespace Galley.Embed

open Decimal Html

/-- The options of a player. A recording without a name has the empty one. -/
structure Recording where
  castId : List Char := []
  theme : Option (List Char) := none
  speed : Option Double := none
  autoPlay : Bool := false
  repeats : Bool := false
  cols : Option Nat := none
  rows : Option Nat := none
deriving DecidableEq, Repr, Inhabited

/-- The greatest number of columns or rows. -/
def sizeLimit : Nat := 0xFFFFFFFF

namespace Recording

/-- Sets the option that a line of a block names. Other names are passed over. -/
def setOption (r : Recording) (key value : List Char) : Recording :=
  if key == "cast-id".toList || key == "castId".toList then { r with castId := value }
  else if key == "theme".toList then { r with theme := some value }
  else if key == "speed".toList then { r with speed := double? value }
  else if key == "autoPlay".toList || key == "auto-play".toList then
    { r with autoPlay := value == "true".toList }
  else if key == "loop".toList then { r with repeats := value == "true".toList }
  else if key == "cols".toList then { r with cols := natUpTo? sizeLimit value }
  else if key == "rows".toList then { r with rows := natUpTo? sizeLimit value }
  else r

/-- Reads a line of a block: a key and a value with a colon between them. What follows a second
colon is passed over. -/
def readLine (r : Recording) (line : List Char) : Recording :=
  match (Text.splitBy (· == ':') line).map Text.trim with
  | key :: value :: _ => r.setOption key value
  | _ => r

/-- The recording that a block names. -/
def ofBlock (body : List Char) : Recording :=
  (Text.splitBy (· == '\n') (Text.trim body)).foldl readLine {}

/-- The theme of a shortcode that names none. -/
def defaultTheme : List Char := "monokai".toList

/-- The speed of a shortcode that names none. -/
def defaultSpeed : Double := .nearest false 1 1

/-- The recording that a shortcode names: a name, a theme and a speed, with colons between them. -/
def ofShortcode (params : List Char) : Recording :=
  let parts := Text.splitBy (· == ':') params
  let theme := (parts[1]?).getD []
  let speed := (parts[2]?).getD []
  { castId := (parts[0]?).getD []
    theme := some (if theme.isEmpty then defaultTheme else theme)
    speed := if speed.isEmpty then some defaultSpeed else double? speed }

/-- Characters of names. -/
def isNameChar (c : Char) : Bool := Text.isAlnum c || c == '.' || c == '_' || c == '-'

/-- Whether the name holds only characters that names may hold. -/
def isValid (r : Recording) : Bool := r.castId.all isNameChar

/-- What is wrong with a name that is not valid. -/
def fault (r : Recording) : List Char := "invalid cast id ".toList ++ Text.quoted r.castId

/-- A number that is not zero, as it is written. -/
def positive (n : Option Nat) : Option (List Char) :=
  (n.filter (· != 0)).map (Nat.toDigits 10)

/-- The attributes of the marker. What is empty, zero, infinite or off is left out. -/
def attributes (r : Recording) : Attributes :=
  let flag (b : Bool) : Option (List Char) := if b then some "true".toList else none
  (((((((Attributes.empty.set .className "asciinema-embed".toList).set (.data .castId)
    r.castId).setIf (.data .theme) (r.theme.filter (!·.isEmpty))).setIf (.data .speed)
      ((r.speed.filter fun s => s.isFinite && !s.isZero).map Double.plain)).setIf (.data .autoPlay)
        (flag r.autoPlay)).setIf (.data .loop) (flag r.repeats)).setIf (.data .cols)
          (positive r.cols)).setIf (.data .rows) (positive r.rows)

/-- The marker: an empty element with the options. -/
def marker (r : Recording) : List Char :=
  startTag "div".toList r.attributes ++ endTag "div".toList

end Recording

end Galley.Embed
