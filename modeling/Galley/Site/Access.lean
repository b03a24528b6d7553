import Galley.Site.Posts

/-!
What is asked of a tree of files. A program over files makes one request after the other and goes on
with each reply, so that it can be told which requests it makes, whatever is replied. The operations
on posts are given once more as such programs.
-/

set_option autoImplicit false
set_option relaxedAutoImplicit false

namespace Galley.Site

/-- A program that asks for files. -/
inductive Access (α : Type) where
  | done (value : α)
  /-- Asks whether a path leads to a file. -/
  | isFile (path : List Char) (next : Bool → Access α)
  /-- Asks for the text of a file. -/
  | readText (path : List Char) (next : Except IoFault (List Char) → Access α)
  /-- Asks for the names in a directory. -/
  | list (path : List Char) (next : Except IoFault (List Name) → Access α)

namespace Access

/-- What a program comes to on the given files. -/
def run {α : Type} (files : Files) : Access α → α
  | done value => value
  | isFile path next => (next (files.isFile path)).run files
  | readText path next => (next (files.readText path)).run files
  | list path next => (next (files.list path)).run files

/-- A program, and then another one for what it comes to. -/
def bind {α β : Type} (program : Access α) (next : α → Access β) : Access β :=
  match program with
  | done value => next value
  | isFile path rest => isFile path fun reply => (rest reply).bind next
  | readText path rest => readText path fun reply => (rest reply).bind next
  | list path rest => list path fun reply => (rest reply).bind next

instance : Monad Access where
  pure := done
  bind := bind

/-- Runs a program for each member of a list, and keeps what some of them come to. -/
def collect {α β : Type} (program : α → Access (Option β)) : List α → Access (List β)
  | [] => done []
  | first :: rest => do
    let found ← program first
    let others ← collect program rest
    return found.toList ++ others

end Access

namespace Layout

/-- Asks whether there is a file for a slug. -/
def hasPostAccess (l : Layout) (kind : Kind) (slug : List Char) : Access Bool :=
  match l.path? kind slug with
  | none => .done false
  | some path => .isFile path .done

/-- Asks for a post. -/
def loadAccess (l : Layout) (kind : Kind) (slug : List Char) :
    Access (Except ContentError LoadedPost) :=
  match l.path? kind slug with
  | none => .done (.error (.notFound kind slug))
  | some path => .readText path fun reply => .done
    (match reply with
      | .error .notFound => .error (.notFound kind slug)
      | .error fault => .error (.io path fault)
      | .ok source =>
        match l.pipeline.renderSource source with
        | .error error => .error (.metadata path error)
        | .ok post => .ok ⟨slug, kind, post⟩)

/-- Asks for the slugs of a kind. -/
def slugsAccess (l : Layout) (kind : Kind) : Access (Except ContentError (List (List Char))) :=
  let directory := l.directory kind
  .list directory fun
    | .error .notFound => .done (.ok [])
    | .error fault => .done (.error (.io directory fault))
    | .ok names => do
      let slugs ← Access.collect (fun name => .isFile (joinPath directory name) fun isFile =>
        .done (if isFile then l.slugOf? name else none)) names
      return .ok (slugs.mergeSort textLe)

/-- Asks for the metadata of a post, which may not be there to read. -/
def summaryAccess (l : Layout) (kind : Kind) (slug : List Char) : Access (Option PostSummary) :=
  match l.path? kind slug with
  | none => .done none
  | some path => .readText path fun reply => .done do
    let source ← reply.toOption
    let extraction ← (Metadata.extract source).toOption
    let frontMatter ← (Metadata.frontMatter extraction.fields).toOption
    return ⟨slug, frontMatter⟩

/-- Asks for the metadata of all posts of a kind that can be read. -/
def listingAccess (l : Layout) (kind : Kind) : Access (Except ContentError (List PostSummary)) := do
  match ← l.slugsAccess kind with
  | .error error => return .error error
  | .ok slugs =>
    let summaries ← Access.collect (l.summaryAccess kind) slugs
    return .ok (summaries.mergeSort summaryLe)

/-- Asks for the input of a batch for a slug that can name a file. -/
def inputAccess (l : Layout) (kind : Kind) (slug : List Char) : Access (Option BatchInput) :=
  match l.path? kind slug with
  | none => .done none
  | some path => .readText path fun reply => .done (some
    { id := slug
      source := match reply with
        | .ok source => .ok source
        | .error fault => .error (ContentError.io path fault).message })

/-- Asks for all posts of a kind, and renders them. -/
def renderAllAccess (l : Layout) (kind : Kind) (goesOn : Bool) :
    Access (Except ContentError BatchReport) := do
  match ← l.slugsAccess kind with
  | .error error => return .error error
  | .ok slugs =>
    let inputs ← Access.collect (l.inputAccess kind) slugs
    return .ok (renderBatch l.pipeline goesOn inputs)

end Layout

end Galley.Site
