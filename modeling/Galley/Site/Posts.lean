import Galley.Site.Batch
import Galley.Site.Layout

/-!
The posts in a tree of files. A post is named by its slug, and a slug that cannot name a file names
no post. Listings give the newest post first and leave out what cannot be read.
-/

set_option autoImplicit false
set_option relaxedAutoImplicit false

namespace Galley.Site

/-- Why a post is not loaded. -/
inductive ContentError where
  | notFound (kind : Kind) (slug : List Char)
  | io (path : List Char) (fault : IoFault)
  | metadata (path : List Char) (error : Metadata.MetadataError)
deriving Repr, Inhabited

/-- The text of an error. -/
def ContentError.message : ContentError → List Char
  | .notFound kind slug => kind.name ++ " post not found: ".toList ++ slug
  | .io path fault => "failed to read ".toList ++ path ++ ": ".toList ++ fault.message.toList
  | .metadata path error =>
    "invalid front-matter in ".toList ++ path ++ ": ".toList ++ error.message

/-- A post that was found by its slug. -/
structure LoadedPost where
  slug : List Char
  kind : Kind
  post : Post
deriving Repr, Inhabited

/-- A post in a listing. -/
structure PostSummary where
  slug : List Char
  frontMatter : Metadata.FrontMatter
deriving DecidableEq, Repr, Inhabited

namespace Layout

/-- How posts are rendered. -/
def pipeline (l : Layout) : Pipeline := { settings := l.render }

/-- Whether there is a file for a slug. -/
def hasPost (l : Layout) (files : Files) (kind : Kind) (slug : List Char) : Bool :=
  (l.path? kind slug).any files.isFile

/-- Loads a post. -/
def load (l : Layout) (files : Files) (kind : Kind) (slug : List Char) :
    Except ContentError LoadedPost :=
  match l.path? kind slug with
  | none => .error (.notFound kind slug)
  | some path =>
    match files.readText path with
    | .error .notFound => .error (.notFound kind slug)
    | .error fault => .error (.io path fault)
    | .ok source =>
      match l.pipeline.renderSource source with
      | .error error => .error (.metadata path error)
      | .ok post => .ok ⟨slug, kind, post⟩

/-- The slug of an entry of a directory, if it is the file of a post. -/
def slugAt? (l : Layout) (files : Files) (directory : List Char) (name : Name) :
    Option (List Char) :=
  if files.isFile (joinPath directory name) then l.slugOf? name else none

/-- Whether a text stands before another one, or is the same. -/
def textLe (a b : List Char) : Bool := !decide (b < a)

/-- The slugs of all posts of a kind, in order. There are none without a directory. -/
def slugs (l : Layout) (files : Files) (kind : Kind) : Except ContentError (List (List Char)) :=
  let directory := l.directory kind
  match files.list directory with
  | .error .notFound => .ok []
  | .error fault => .error (.io directory fault)
  | .ok names => .ok ((names.filterMap (l.slugAt? files directory)).mergeSort textLe)

/-- The metadata of a post. -/
def readSummary (l : Layout) (files : Files) (kind : Kind) (slug : List Char) :
    Except ContentError PostSummary :=
  match l.path? kind slug with
  | none => .error (.notFound kind slug)
  | some path =>
    match files.readText path with
    | .error fault => .error (.io path fault)
    | .ok source =>
      match Metadata.extract source with
      | .error error => .error (.metadata path error)
      | .ok extraction =>
        match Metadata.frontMatter extraction.fields with
        | .error error => .error (.metadata path error)
        | .ok frontMatter => .ok ⟨slug, frontMatter⟩

/-- Whether a post stands before another one in a listing: the newer one does, and of one day the
one whose slug comes first. -/
def summaryLe (a b : PostSummary) : Bool :=
  if a.frontMatter.date = b.frontMatter.date then textLe a.slug b.slug
  else decide (b.frontMatter.date < a.frontMatter.date)

/-- The metadata of all posts of a kind that can be read, newest first. -/
def listing (l : Layout) (files : Files) (kind : Kind) :
    Except ContentError (List PostSummary) := do
  let slugs ← l.slugs files kind
  return (slugs.filterMap fun slug => (l.readSummary files kind slug).toOption).mergeSort summaryLe

/-- The input of a batch for a slug that can name a file. -/
def batchInput? (l : Layout) (files : Files) (kind : Kind) (slug : List Char) :
    Option BatchInput :=
  (l.path? kind slug).map fun path =>
    { id := slug
      source := match files.readText path with
        | .ok source => .ok source
        | .error fault => .error (ContentError.io path fault).message }

/-- Renders all posts of a kind. -/
def renderAll (l : Layout) (files : Files) (kind : Kind) (goesOn : Bool) :
    Except ContentError BatchReport := do
  let slugs ← l.slugs files kind
  return renderBatch l.pipeline goesOn (slugs.filterMap (l.batchInput? files kind))

/-- The slug of posts whose title has none. -/
def untitled : List Char := "untitled".toList

/-- A slug for a new post that no file has: that of its title, or that with a number. Of so many
numbers as there are entries, and one more, one is free. -/
def freshSlug (l : Layout) (files : Files) (kind : Kind) (title : List Char) : List Char :=
  let base := match slugify title with
    | [] => untitled
    | slug => slug
  if l.hasPost files kind base then
    firstFree (l.hasPost files kind) base files.entries.length 1
  else base

end Layout

end Galley.Site
