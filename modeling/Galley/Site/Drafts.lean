import Galley.Site.Posts

/-!
New posts. A draft is saved under a slug that no file has, in the directory of its kind, which has
to be there.
-/

set_option autoImplicit false
set_option relaxedAutoImplicit false

namespace Galley.Site

/-- Saves a file at a path. What a file held before is replaced; a directory is not, and none is
made. -/
def Files.save (files : Files) (path : List Char) (bytes : List UInt8) : Except IoFault Files :=
  if path.contains '\x00' then .error .nulByte
  else
    match files.below? path with
    | none => .error .notFound
    | some names =>
      match names.getLast? with
      | none => .error .isDirectory
      | some name =>
        match files.follow [] names.dropLast with
        | .error fault => .error fault
        | .ok (_, .file _) => .error .notDirectory
        | .ok (directory, .directory) =>
          if nameLimit < Metadata.byteCount name then .error .nameTooLong
          else if name == ['.', '.'] || asksForDirectory path ||
              files.entry? (directory ++ [name]) == some .directory then .error .isDirectory
          else .ok (files.put (directory ++ [name]) (.file bytes))

/-- A post that is not saved yet. -/
structure Draft where
  kind : Kind
  title : List Char
  bytes : List UInt8
deriving DecidableEq, Repr, Inhabited

namespace Layout

/-- Saves a draft: the tree with its file, and its slug. -/
def addDraft (l : Layout) (files : Files) (draft : Draft) :
    Except ContentError (Files × List Char) :=
  let slug := l.freshSlug files draft.kind draft.title
  match l.path? draft.kind slug with
  | none => .error (.notFound draft.kind slug)
  | some path =>
    match files.save path draft.bytes with
    | .error fault => .error (.io path fault)
    | .ok files => .ok (files, slug)

/-- Saves drafts one after the other: the tree with their files, and the slug of each. -/
def addDrafts (l : Layout) (files : Files) :
    List Draft → Except ContentError (Files × List (List Char))
  | [] => .ok (files, [])
  | draft :: rest => do
    let (files, slug) ← l.addDraft files draft
    let (files, slugs) ← l.addDrafts files rest
    return (files, slug :: slugs)

end Layout

end Galley.Site
