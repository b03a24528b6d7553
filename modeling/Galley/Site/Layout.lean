import Galley.Settings
import Galley.Site.Files

/-!
Where posts are kept and how they are rendered. Posts and notes have a directory each; the file of a
post is named by its slug and the extension.
-/

set_option autoImplicit false
set_option relaxedAutoImplicit false

namespace Galley.Site

/-- The kinds of content. -/
inductive Kind where
  | blog
  /-- Short notes. -/
  | til
deriving DecidableEq, Repr, Inhabited

/-- The name of a kind. -/
def Kind.name : Kind → List Char
  | .blog => "blog".toList
  | .til => "til".toList

/-- Where posts are kept. -/
structure Layout where
  root : List Char := "content".toList
  blogDirectory : List Char := "blog".toList
  tilDirectory : List Char := "til".toList
  extension : List Char := "md".toList
  render : Settings := {}
deriving DecidableEq, Repr, Inhabited

namespace Layout

/-- What a layout is read from. -/
def schema : Schema Layout where
  title := "struct ContentConfig"
  default := {}
  fields :=
    [.of ["root"] (Data.asTextOf "path string") fun l root => { l with root },
      .of ["blog_dir", "blogDir"] Data.asText fun l blogDirectory => { l with blogDirectory },
      .of ["til_dir", "tilDir"] Data.asText fun l tilDirectory => { l with tilDirectory },
      .of ["extension"] Data.asText fun l extension => { l with extension },
      .of ["render"] Settings.schema.read fun l render => { l with render }]

/-- The directory of a kind. -/
def directory (l : Layout) (kind : Kind) : List Char :=
  joinPath l.root (match kind with
    | .blog => l.blogDirectory
    | .til => l.tilDirectory)

/-- The name of the file with the given slug. -/
def fileName (l : Layout) (slug : List Char) : Name := slug ++ '.' :: l.extension

/-- Whether two dots stand side by side. -/
def hasDoubleDot : List Char → Bool
  | '.' :: '.' :: _ => true
  | _ :: rest => hasDoubleDot rest
  | [] => false

/-- Whether a slug can name a file in a directory. -/
def isSafeSlug (slug : List Char) : Bool :=
  !slug.isEmpty && slug.head? != some '.' && !slug.contains '/' && !slug.contains '\\' &&
    !hasDoubleDot slug

/-- The path of a post, if its slug can name a file. -/
def path? (l : Layout) (kind : Kind) (slug : List Char) : Option (List Char) :=
  if isSafeSlug slug then some (joinPath (l.directory kind) (l.fileName slug)) else none

/-- A name before its last dot and after it. A dot in front does not count. -/
def splitExtension? (name : Name) : Option (List Char × List Char) :=
  let extension := (name.reverse.takeWhile (· != '.')).reverse
  let stem := name.take (name.length - extension.length - 1)
  if extension.length < name.length && !stem.isEmpty && name != ['.', '.'] then
    some (stem, extension)
  else none

/-- The slug of a file with the given name, if it is one of a post. -/
def slugOf? (l : Layout) (name : Name) : Option (List Char) :=
  match splitExtension? name with
  | some (stem, extension) => if extension = l.extension then some stem else none
  | none => none

end Layout

end Galley.Site
