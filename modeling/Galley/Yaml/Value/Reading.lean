import Galley.Yaml.Node
import Galley.Yaml.Token.Scanner
import Galley.Yaml.Value.Scalar

/-!
The value of a text. An alias stands for the node that was last given its anchor, and not for one
that is still open. A node with a tag of its own becomes a tagged value. How deep values are, and
how much aliases stand for, is limited.
-/

set_option autoImplicit false
set_option relaxedAutoImplicit false

namespace Galley.Yaml

/-- A value with its height and the number of aliases that it takes to read it. -/
structure Composed where
  value : Value
  height : Nat := 0
  aliases : Nat := 0
deriving Repr, Inhabited

/-- The anchors so far, last first; one of an open node has no value. -/
abbrev Anchors := List (List Char × Option Composed)

namespace Anchors

/-- Gives an anchor to a value. -/
def add (anchors : Anchors) (name : Option (List Char)) (value : Option Composed) : Anchors :=
  match name with
  | some name => (name, value) :: anchors
  | none => anchors

/-- Gives a value to the anchor of a node that was opened after the first `before` anchors. -/
def complete (anchors : Anchors) (before : Nat) (name : Option (List Char)) (value : Composed) :
    Anchors :=
  match name with
  | some name => anchors.set (anchors.length - 1 - before) (name, some value)
  | none => anchors

end Anchors

/-- The tag that makes a value a tagged one. -/
def Properties.ownTag? (properties : Properties) : Option (List Char) :=
  match properties.tag with
  | some ['!'] => some ['!']
  | some ('!' :: rest) => some rest
  | _ => none

/-- A value with its tag. -/
def Composed.withTag (c : Composed) (tag : Option (List Char)) : Composed :=
  match tag with
  | some tag => { c with value := .tagged tag c.value }
  | none => c

/-- A scalar, and what an alias of it stands for. -/
def composeScalar (isTagged : Bool) (properties : Properties) (isPlain : Bool) (s : List Char) :
    Except Fault (Composed × Option Composed) :=
  let bare : Except Fault Value := if isPlain then plainValue s else .ok (.text s)
  let own : Except Fault Composed :=
    match properties.ownTag? with
    | some tag => bare.map fun value => { value := .tagged tag value }
    | none => (scalarValue properties.tag isPlain s).map fun value => { value }
  (if isTagged then bare.map fun value => { value } else own).map fun c => (c, own.toOption)

/-- A sequence of values. -/
def composeSequence (items : List Composed) : Composed where
  value := .sequence (items.map (·.value))
  height := 1 + (items.map (·.height)).foldl max 0
  aliases := items.foldr (fun item count => item.aliases + count) 0

/-- A mapping, if its keys differ. -/
def composeMapping (entries : List (Composed × Composed)) : Except Fault Composed :=
  let height := (entries.map fun (k, v) => max k.height v.height).foldl max 0
  let differ (k l : Composed × Composed) : Bool :=
    !Value.same (2 * height + 2) k.1.value l.1.value
  if entries.Pairwise (fun k l => differ k l) then
    .ok
      { value := .mapping (entries.map fun (k, v) => (k.value, v.value))
        height := 1 + height
        aliases := entries.foldr (fun (k, v) count => k.aliases + v.aliases + count) 0 }
  else .error .duplicateKey

mutual

/-- The value of a node. `isTagged` says that a tag was read for it already, so that its own one
does not count. -/
def compose (isTagged : Bool) (anchors : Anchors) : Node → Except Fault (Composed × Anchors)
  | .alias name =>
    match anchors.lookup name with
    | none => .error .unknownAnchor
    | some none => .error .tooDeep
    | some (some c) => .ok ({ c with aliases := c.aliases + 1 }, anchors)
  | .scalar properties isPlain s => do
    let (c, own) ← composeScalar isTagged properties isPlain s
    return (c, anchors.add properties.anchor own)
  | .sequence properties items => do
    let (items, inner) ← composeItems (anchors.add properties.anchor none) items
    let c := composeSequence items
    let own := c.withTag properties.ownTag?
    return (if isTagged then c else own, inner.complete anchors.length properties.anchor own)
  | .mapping properties entries => do
    let keysTagged := isTagged || properties.ownTag?.isSome
    let (entries, inner) ← composeEntries keysTagged (anchors.add properties.anchor none) entries
    let c ← composeMapping entries
    let own := c.withTag properties.ownTag?
    return (if isTagged then c else own, inner.complete anchors.length properties.anchor own)

/-- The values of items. -/
def composeItems (anchors : Anchors) : List Node → Except Fault (List Composed × Anchors)
  | [] => .ok ([], anchors)
  | node :: rest => do
    let (c, anchors) ← compose false anchors node
    let (cs, anchors) ← composeItems anchors rest
    return (c :: cs, anchors)

/-- The keys and values of entries. -/
def composeEntries (keysTagged : Bool) (anchors : Anchors) :
    List (Node × Node) → Except Fault (List (Composed × Composed) × Anchors)
  | [] => .ok ([], anchors)
  | (key, value) :: rest => do
    let (k, anchors) ← compose keysTagged anchors key
    let (v, anchors) ← compose false anchors value
    let (entries, anchors) ← composeEntries keysTagged anchors rest
    return ((k, v) :: entries, anchors)

end

mutual

/-- The number of scalars, aliases and ends of collections in a node. -/
def Node.weight : Node → Nat
  | .alias _ | .scalar _ _ _ => 1
  | .sequence _ items => 2 + itemsWeight items
  | .mapping _ entries => 2 + entriesWeight entries

/-- The weight of items. -/
def itemsWeight : List Node → Nat
  | [] => 0
  | node :: rest => node.weight + itemsWeight rest

/-- The weight of entries. -/
def entriesWeight : List (Node × Node) → Nat
  | [] => 0
  | (key, value) :: rest => key.weight + value.weight + entriesWeight rest

end

/-- How many collections a value can be deep. -/
def heightLimit : Nat := 128

/-- How many aliases can be read for each part of a text. -/
def aliasLimit : Nat := 100

/-- The value of a text. -/
def read (text : List Char) : Except Fault Value := do
  match ← document? (← tokens text) with
  | none => return .null
  | some node =>
    let (c, _) ← compose false [] node
    if heightLimit < c.height then throw .tooDeep
    if aliasLimit * node.weight < c.aliases then throw .tooManyAliases
    return c.value

end Galley.Yaml
