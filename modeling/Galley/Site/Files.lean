import Galley.Metadata.Fence
import Galley.Text.Utf8

/-!
A tree of files. A path is a text; its names lead from the base of the tree through directories to a
file or a directory, a double dot leads back up, and nothing outside of the tree is there. Why a
path leads nowhere is said in the words of the system.
-/

set_option autoImplicit false
set_option relaxedAutoImplicit false

namespace Galley.Site

/-- A name in a directory. -/
abbrev Name := List Char

/-- What stands at a place. -/
inductive Entry where
  | directory
  | file (bytes : List UInt8)
deriving DecidableEq, Repr, Inhabited

/-- A tree of files: its base, and what stands at which names below it. Directories above a file are
listed as well. -/
structure Files where
  base : List Char
  entries : List (List Name × Entry) := []
deriving Repr, Inhabited

/-- Why a path is not read. -/
inductive IoFault where
  | notFound
  | notDirectory
  | isDirectory
  | nameTooLong
  | nulByte
  | notText
deriving DecidableEq, Repr, Inhabited

/-- The text of a fault. -/
def IoFault.message : IoFault → String
  | .notFound => "No such file or directory (os error 2)"
  | .notDirectory => "Not a directory (os error 20)"
  | .isDirectory => "Is a directory (os error 21)"
  | .nameTooLong => "File name too long (os error 36)"
  | .nulByte => "file name contained an unexpected NUL byte"
  | .notText => "stream did not contain valid UTF-8"

/-- A path below another. An absolute path stands on its own. -/
def joinPath (path below : List Char) : List Char :=
  match below with
  | '/' :: _ => below
  | _ => if path.isEmpty || path.getLast? == some '/' then path ++ below else path ++ '/' :: below

/-- The names of a path. -/
def pathNames (path : List Char) : List Name :=
  (Text.wordsBy (· == '/') path).filter (· != ['.'])

/-- Whether a path is one of a directory, whatever stands there: it ends in a slash, which a dot may
follow. -/
def asksForDirectory (path : List Char) : Bool :=
  ['/'].isSuffixOf path || ['/', '.'].isSuffixOf path

/-- The most bytes of a name. -/
def nameLimit : Nat := 255

namespace Files

/-- What stands at the given names. -/
def entry? (files : Files) : List Name → Option Entry
  | [] => some .directory
  | names => files.entries.lookup names

/-- The names below the base that a path leads through, if it leads below the base. -/
def below? (files : Files) (path : List Char) : Option (List Name) :=
  let base := pathNames files.base
  let names := pathNames path
  if base.isPrefixOf names then some (names.drop base.length) else none

/-- Follows names from a place on. -/
def follow (files : Files) (place : List Name) : List Name → Except IoFault (List Name × Entry)
  | [] =>
    match files.entry? place with
    | some entry => .ok (place, entry)
    | none => .error .notFound
  | name :: rest =>
    match files.entry? place with
    | none => .error .notFound
    | some (.file _) => .error .notDirectory
    | some .directory =>
      if nameLimit < Metadata.byteCount name then .error .nameTooLong
      else if name == ['.', '.'] then
        if place.isEmpty then .error .notFound else follow files place.dropLast rest
      else follow files (place ++ [name]) rest

/-- What a path leads to. -/
def find (files : Files) (path : List Char) : Except IoFault (List Name × Entry) :=
  if path.contains '\x00' then .error .nulByte
  else
    match files.below? path with
    | none => .error .notFound
    | some names =>
      match files.follow [] names with
      | .error fault => .error fault
      | .ok (place, entry) =>
        if asksForDirectory path && entry != .directory then .error .notDirectory
        else .ok (place, entry)

/-- Whether a path leads to a file. -/
def isFile (files : Files) (path : List Char) : Bool :=
  match files.find path with
  | .ok (_, .file _) => true
  | _ => false

/-- The text of a file. -/
def readText (files : Files) (path : List Char) : Except IoFault (List Char) :=
  match files.find path with
  | .error fault => .error fault
  | .ok (_, .directory) => .error .isDirectory
  | .ok (_, .file bytes) =>
    match Text.decodeUtf8? bytes with
    | some text => .ok text
    | none => .error .notText

/-- The last name, if the others are the given ones. -/
def nameIn? (place names : List Name) : Option Name :=
  match names.getLast? with
  | some name => if names.dropLast = place then some name else none
  | none => none

/-- The names in a directory. -/
def list (files : Files) (path : List Char) : Except IoFault (List Name) :=
  match files.find path with
  | .error fault => .error fault
  | .ok (_, .file _) => .error .notDirectory
  | .ok (place, .directory) => .ok (files.entries.filterMap fun (names, _) => nameIn? place names)

/-- Puts an entry at a place. -/
def put (files : Files) (names : List Name) (entry : Entry) : Files :=
  { files with entries := (names, entry) :: files.entries.filter (·.1 != names) }

/-- Makes the directories that are missing on the way from a place on. -/
def makeDirectories (place : List Name) : List Name → Files → Files
  | [], files => files
  | name :: rest, files =>
    let place := place ++ [name]
    makeDirectories place rest
      (if (files.entry? place).isSome then files else files.put place .directory)

/-- Makes a directory at a path below the base, and those above it. -/
def makeDirectory (files : Files) (path : List Char) : Files :=
  makeDirectories [] (pathNames path) files

/-- Writes a file at a path below the base, and makes the directories above it. -/
def write (files : Files) (path : List Char) (bytes : List UInt8) : Files :=
  let names := pathNames path
  (makeDirectories [] names.dropLast files).put names (.file bytes)

/-- Removes what stands at a path below the base, and all below it. -/
def remove (files : Files) (path : List Char) : Files :=
  let names := pathNames path
  { files with entries := files.entries.filter fun (place, _) => !names.isPrefixOf place }

end Files

end Galley.Site
