import Galley.Html.Outline
import Galley.Metadata.Fence

/-!
The outline of a page as a scan with a cursor. Places are offsets in bytes. A turn of the scan looks
for the next start tag of a heading from the cursor on, and then for its end tag in a copy of the
line in lower case. It moves the cursor behind the end tag, or past the first byte of the start tag
if the line holds no end tag. To take what stands at an offset fails if the offset is beyond the
end or within a character, and then so does the turn.
-/

set_option autoImplicit false
set_option relaxedAutoImplicit false

namespace Galley.Html

open Metadata (byteCount)

/-- A text in two at an offset. -/
def splitAtByte? : List Char → Nat → Option (List Char × List Char)
  | s, 0 => some ([], s)
  | [], _ + 1 => none
  | c :: rest, n + 1 =>
    if n + 1 < c.utf8Size then none
    else (splitAtByte? rest (n + 1 - c.utf8Size)).map fun (front, back) => (c :: front, back)

/-- What stands from an offset on. -/
def fromByte? (s : List Char) (n : Nat) : Option (List Char) := (splitAtByte? s n).map Prod.snd

/-- What stands up to an offset. -/
def upToByte? (s : List Char) (n : Nat) : Option (List Char) := (splitAtByte? s n).map Prod.fst

/-- What stands from one offset up to another. -/
def slice? (s : List Char) (start stop : Nat) : Option (List Char) :=
  if stop < start then none else (fromByte? s start).bind (upToByte? · (stop - start))

/-- The offset at which a text first stands in another. -/
def findBytes? (part : List Char) : List Char → Option Nat
  | [] => if part.isEmpty then some 0 else none
  | c :: rest =>
    if part.isPrefixOf (c :: rest) then some 0 else (findBytes? part rest).map (c.utf8Size + ·)

/-- The offset at which the first line of a text ends. -/
def lineBytes (s : List Char) : Nat := byteCount (s.takeWhile (!isLineEnd ·))

/-- The first start tag of a heading, and the offset at which it stands. -/
def nextOpening? : List Char → Option (Nat × HeadingOpen)
  | [] => none
  | c :: rest =>
    match headingOpen? (c :: rest) with
    | some opening => some (0, opening)
    | none => (nextOpening? rest).map fun (offset, opening) => (c.utf8Size + offset, opening)

/-- An entry of an outline and where its heading stands: the start tag from the first offset on, the
content between the second and the third, and the end tag up to the last. -/
structure Located where
  entry : Heading
  start : Nat
  contentStart : Nat
  contentStop : Nat
  stop : Nat
deriving DecidableEq, Repr

/-- How far a scan has come, and what it has found. -/
structure Scan where
  cursor : Nat := 0
  slugger : Slugger := .empty
  found : List Located := []
deriving DecidableEq, Repr

namespace Scan

/-- What a turn comes to. -/
inductive Turn where
  | finished
  | next (scan : Scan)
deriving DecidableEq, Repr

/-- Moves on behind a heading, which is listed unless it has no text. -/
def pass (scan : Scan) (opening : HeadingOpen) (content : List Char)
    (start contentStart contentStop : Nat) : Scan :=
  let stop := contentStop + byteCount (headingClose opening.level)
  let text := headingText content
  if text.isEmpty then { scan with cursor := stop }
  else
    let (slugger, id) := scan.slugger.claim (headingCandidate opening.id text)
    let entry := ⟨id, text, opening.level⟩
    ⟨stop, slugger, scan.found ++ [⟨entry, start, contentStart, contentStop, stop⟩]⟩

/-- One turn of a scan, unless something is taken from where nothing can be. -/
def turn? (html : List Char) (scan : Scan) : Option Turn := do
  let ahead ← fromByte? html scan.cursor
  match nextOpening? ahead with
  | none => return .finished
  | some (offset, opening) =>
    let start := scan.cursor + offset
    let contentStart := byteCount html - byteCount opening.rest
    let rest ← fromByte? html contentStart
    let line ← upToByte? rest (lineBytes rest)
    match findBytes? (headingClose opening.level) (Text.asciiLower line) with
    | none => return .next { scan with cursor := start + 1 }
    | some length =>
      let content ← slice? html contentStart (contentStart + length)
      return .next (scan.pass opening content start contentStart (contentStart + length))

end Scan

end Galley.Html
