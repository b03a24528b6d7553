import Galley.Text.Blank

/-!
The metadata block at the start of a text. Blank lines may stand before it; it is set off by two
fences, lines of three hyphens, and the body starts after the second one.
-/

set_option autoImplicit false
set_option relaxedAutoImplicit false

namespace Galley.Metadata

/-- The mark of the byte order. -/
def orderMark : Char := '\ufeff'

/-- The lines of a text, each with the line feed that ends it. -/
def lines : List Char → List (List Char)
  | [] => []
  | c :: rest =>
    if c = '\n' then [c] :: lines rest
    else
      match lines rest with
      | [] => [[c]]
      | line :: later => (c :: line) :: later

/-- Lines lose nothing of the text. -/
theorem flatten_lines (s : List Char) : (lines s).flatten = s := by
  induction s with
  | nil => rfl
  | cons c rest ih =>
    unfold lines
    split
    · simp [ih]
    · split <;> rename_i h <;> simp_all

/-- Drops characters at the end that satisfy a test. -/
def dropTrailing (test : Char → Bool) (s : List Char) : List Char :=
  (s.reverse.dropWhile test).reverse

/-- A line without the line feed that ends it. -/
def dropLineFeed (line : List Char) : List Char :=
  if line.getLast? = some '\n' then line.dropLast else line

/-- Whether a line is a fence; carriage returns may stand at its end. -/
def isFence (line : List Char) : Bool :=
  dropTrailing (· == '\r') (dropLineFeed line) == ['-', '-', '-']

/-- The lines after the first fence, if nothing but blank lines stands before it. -/
def afterFence? : List (List Char) → Option (List (List Char))
  | [] => none
  | line :: rest =>
    if Text.isBlankText line then afterFence? rest
    else if isFence line then some rest
    else none

/-- The lines up to the next fence, and the lines after it. -/
def untilFence? : List (List Char) → Option (List (List Char) × List (List Char))
  | [] => none
  | line :: rest =>
    if isFence line then some ([], rest)
    else (untilFence? rest).map fun (block, body) => (line :: block, body)

/-- Where a metadata block stands. -/
inductive Location where
  /-- There is none. -/
  | absent
  /-- It is not closed. -/
  | unterminated
  /-- The text between the fences, without ends of lines at its end, and the text after them. -/
  | found (block body : List Char)
deriving DecidableEq, Repr, Inhabited

/-- Drops the mark of the byte order. -/
def dropOrderMark (s : List Char) : List Char :=
  match s with
  | c :: rest => if c = orderMark then rest else s
  | [] => []

/-- Looks for the metadata block of a text. -/
def locate (s : List Char) : Location :=
  match afterFence? (lines (dropOrderMark s)) with
  | none => .absent
  | some rest =>
    match untilFence? rest with
    | none => .unterminated
    | some (block, body) =>
      .found (dropTrailing (fun c => c == '\r' || c == '\n') block.flatten) body.flatten

/-- The number of bytes that a text takes. -/
def byteCount (s : List Char) : Nat := s.foldr (fun c count => c.utf8Size + count) 0

end Galley.Metadata
