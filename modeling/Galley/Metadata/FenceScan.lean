import Galley.Html.OutlineScan
import Galley.Metadata.Fence

/-!
The search for the metadata block of a text with a cursor. Places are offsets in bytes, behind the
mark of the byte order. A turn takes the line at the cursor and moves the cursor behind it, until
the search has come to a finding. To take a line, or what stands between two offsets, fails if an
offset is beyond the end or within a character, and then so does the turn.
-/

set_option autoImplicit false
set_option relaxedAutoImplicit false

namespace Galley.Metadata

open Html (fromByte? slice? findBytes?)

/-- The mark of the byte order that a text starts with, if it does. -/
def markOf (s : List Char) : List Char :=
  match s with
  | c :: _ => if c = orderMark then [c] else []
  | [] => []

/-- The line at an offset, without its line feed, and the offset behind it; `some none` if the text
is at its end. -/
def lineAt? (text : List Char) (start : Nat) : Option (Option (List Char × Nat)) :=
  if byteCount text ≤ start then some none
  else do
    let rest ← fromByte? text start
    match findBytes? ['\n'] rest with
    | some length =>
      let line ← slice? text start (start + length)
      return some (line, start + length + 1)
    | none => return some (rest, byteCount text)

/-- What a search comes to. -/
inductive Finding where
  /-- There is no block. -/
  | absent
  /-- It is not closed. -/
  | unterminated
  /-- The text between the fences, without ends of lines at its end, and the offset of the body. -/
  | found (block : List Char) (bodyStart : Nat)
deriving DecidableEq, Repr

/-- How far a search has come. -/
inductive FenceScan where
  /-- No line but blank ones stands before the cursor. -/
  | before (cursor : Nat)
  /-- The first fence ends at `start`, and no other one stands before the cursor. -/
  | within (start cursor : Nat)
deriving DecidableEq, Repr

namespace FenceScan

/-- What a turn comes to. -/
inductive Turn where
  | finished (finding : Finding)
  | next (scan : FenceScan)
deriving DecidableEq, Repr

/-- One turn of a search, unless something is taken from where nothing can be. The text stands
`shift` bytes behind the start of the document. -/
def turn? (text : List Char) (shift : Nat) : FenceScan → Option Turn
  | before cursor => do
    match ← lineAt? text cursor with
    | none => return .finished .absent
    | some (line, next) =>
      if Text.isBlankText line then return .next (before next)
      else if isFence line then return .next (within next next)
      else return .finished .absent
  | within start cursor => do
    match ← lineAt? text cursor with
    | none => return .finished .unterminated
    | some (line, next) =>
      if isFence line then
        let block ← slice? text start cursor
        return .finished
          (.found (dropTrailing (fun c => c == '\r' || c == '\n') block) (shift + next))
      else return .next (within start next)

/-- A search comes to a finding, turn by turn. -/
inductive Finds (text : List Char) (shift : Nat) : FenceScan → Finding → Prop
  | finished {scan : FenceScan} {finding : Finding}
    (hturn : scan.turn? text shift = some (.finished finding)) : Finds text shift scan finding
  | next {scan next : FenceScan} {finding : Finding}
    (hturn : scan.turn? text shift = some (.next next)) (hrest : Finds text shift next finding) :
    Finds text shift scan finding

/-- What the search in a document comes to, which starts behind the mark of the byte order. -/
def FindsIn (s : List Char) (finding : Finding) : Prop :=
  Finds (dropOrderMark s) (byteCount (markOf s)) (before 0) finding

end FenceScan

end Galley.Metadata
