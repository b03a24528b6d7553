import Galley.Yaml.Fault
import Galley.Yaml.Token

/-!
The tree of a metadata block, as it is written: scalars, aliases and collections with their anchors
and tags. A tag is its handle's stem and its suffix. A block holds one document at most.
-/

set_option autoImplicit false
set_option relaxedAutoImplicit false

namespace Galley.Yaml

/-- What can stand before a node. -/
structure Properties where
  anchor : Option (List Char) := none
  tag : Option (List Char) := none
deriving DecidableEq, Repr, Inhabited

/-- A node as it is written. -/
inductive Node where
  | alias (name : List Char)
  | scalar (properties : Properties) (isPlain : Bool) (text : List Char)
  | sequence (properties : Properties) (items : List Node)
  | mapping (properties : Properties) (entries : List (Node × Node))
deriving Repr, Inhabited

/-- A node without content. -/
def Node.absent : Node := .scalar {} true []

/-- Handles with the stems that they stand for. -/
abbrev Handles := List (List Char × List Char)

/-- The handles that are known without a directive. -/
def Handles.usual : Handles := [(['!'], ['!']), (['!', '!'], "tag:yaml.org,2002:".toList)]

/-- A tag in full. -/
def Handles.resolve (handles : Handles) (handle suffix : List Char) : Except Fault (List Char) :=
  if handle.isEmpty then .ok suffix
  else
    match handles.lookup handle with
    | some stem => .ok (stem ++ suffix)
    | none => .error .undefinedTag

/-- Reads an anchor and a tag, in any order. -/
def readProperties (handles : Handles) : List Token → Except Fault (Properties × List Token)
  | .anchor name :: .tag handle suffix :: rest => do
    return (⟨some name, some (← handles.resolve handle suffix)⟩, rest)
  | .tag handle suffix :: .anchor name :: rest => do
    return (⟨some name, some (← handles.resolve handle suffix)⟩, rest)
  | .anchor name :: rest => .ok (⟨some name, none⟩, rest)
  | .tag handle suffix :: rest => do
    return (⟨none, some (← handles.resolve handle suffix)⟩, rest)
  | rest => .ok ({}, rest)

/-- Where a node stands. -/
inductive Position where
  /-- In an entry of a block sequence, or on its own. -/
  | block
  /-- In a block mapping, where a sequence need not be indented. -/
  | mapping
  /-- Between brackets. -/
  | flow
deriving DecidableEq, Repr, Inhabited

/-- Whether a part of a mapping that starts with the given tokens is absent. -/
def isAbsentPart : List Token → Bool
  | .key :: _ | .value :: _ | .blockEnd :: _ => true
  | _ => false

/-- Whether an entry of a block sequence that starts with the given tokens is absent. -/
def isAbsentEntry : List Token → Bool
  | .entry :: _ | .blockEnd :: _ => true
  | _ => false

/-- Whether a part of an entry between brackets is absent. -/
def isAbsentFlow (closing : Token) : List Token → Bool
  | token :: _ => token == .flowEntry || token == closing
  | [] => false

/-- Whether a key between brackets is absent. -/
def isAbsentFlowKey (closing : Token) (tokens : List Token) : Bool :=
  isAbsentFlow closing tokens || tokens.head? == some .value

/-- A node that has an anchor or a tag only. -/
def readBare (properties : Properties) (tokens : List Token) : Except Fault (Node × List Token) :=
  if properties.anchor.isSome || properties.tag.isSome then
    .ok (.scalar properties true [], tokens)
  else .error .missingContent

mutual

/-- Reads a node. -/
def readNode (handles : Handles) (position : Position) :
    Nat → List Token → Except Fault (Node × List Token)
  | 0, _ => .error .missingContent
  | fuel + 1, tokens => do
    if let .alias name :: rest := tokens then return (.alias name, rest)
    let (properties, tokens) ← readProperties handles tokens
    match tokens with
    | .entry :: _ =>
      if position == .mapping then
        let (items, rest) ← readIndentless handles fuel tokens
        return (.sequence properties items, rest)
      else readBare properties tokens
    | .scalar isPlain text :: rest =>
      if properties.tag == some ['!'] then
        return (.scalar { properties with tag := none } isPlain text, rest)
      else return (.scalar properties isPlain text, rest)
    | .flowSequence :: rest =>
      let (items, rest) ← readFlowItems handles true fuel rest
      return (.sequence properties items, rest)
    | .flowMapping :: rest =>
      let (entries, rest) ← readFlowEntries handles true fuel rest
      return (.mapping properties entries, rest)
    | .blockSequence :: rest =>
      if position == .flow then readBare properties tokens
      else
        let (items, rest) ← readItems handles fuel rest
        return (.sequence properties items, rest)
    | .blockMapping :: rest =>
      if position == .flow then readBare properties tokens
      else
        let (entries, rest) ← readEntries handles fuel rest
        return (.mapping properties entries, rest)
    | _ => readBare properties tokens

/-- Reads the entries of an indented sequence. -/
def readItems (handles : Handles) : Nat → List Token → Except Fault (List Node × List Token)
  | 0, _ => .error .missingEntry
  | fuel + 1, tokens => do
    match tokens with
    | .entry :: rest =>
      let (item, rest) ←
        if isAbsentEntry rest then pure (Node.absent, rest) else readNode handles .block fuel rest
      let (items, rest) ← readItems handles fuel rest
      return (item :: items, rest)
    | .blockEnd :: rest => return ([], rest)
    | _ => throw .missingEntry

/-- Reads the entries of a sequence in a mapping that is not indented. -/
def readIndentless (handles : Handles) : Nat → List Token → Except Fault (List Node × List Token)
  | 0, _ => .error .missingEntry
  | fuel + 1, tokens => do
    match tokens with
    | .entry :: rest =>
      let (item, rest) ←
        if isAbsentEntry rest || isAbsentPart rest then pure (Node.absent, rest)
        else readNode handles .block fuel rest
      let (items, rest) ← readIndentless handles fuel rest
      return (item :: items, rest)
    | _ => return ([], tokens)

/-- Reads the entries of a block mapping. -/
def readEntries (handles : Handles) :
    Nat → List Token → Except Fault (List (Node × Node) × List Token)
  | 0, _ => .error .missingEntry
  | fuel + 1, tokens => do
    match tokens with
    | .blockEnd :: rest => return ([], rest)
    | .key :: rest =>
      let (key, rest) ←
        if isAbsentPart rest then pure (Node.absent, rest) else readNode handles .mapping fuel rest
      let (value, rest) ← readValuePart handles fuel rest
      let (entries, rest) ← readEntries handles fuel rest
      return ((key, value) :: entries, rest)
    | _ => throw .missingEntry

/-- Reads the value of an entry in a block mapping. -/
def readValuePart (handles : Handles) : Nat → List Token → Except Fault (Node × List Token)
  | 0, _ => .error .missingEntry
  | fuel + 1, tokens =>
    match tokens with
    | .value :: rest =>
      if isAbsentPart rest then .ok (Node.absent, rest) else readNode handles .mapping fuel rest
    | _ => .ok (Node.absent, tokens)

/-- Reads the entries of a sequence between brackets. -/
def readFlowItems (handles : Handles) (isFirst : Bool) :
    Nat → List Token → Except Fault (List Node × List Token)
  | 0, _ => .error .missingEntry
  | fuel + 1, tokens => do
    match tokens with
    | .flowSequenceEnd :: rest => return ([], rest)
    | _ =>
      let tokens ←
        if isFirst then pure tokens
        else match tokens with
          | .flowEntry :: rest => pure rest
          | _ => throw .missingEntry
      match tokens with
      | .flowSequenceEnd :: rest => return ([], rest)
      | .key :: rest =>
        let (key, rest) ← readPairKey handles fuel rest
        let (value, rest) ← readFlowValue handles .flowSequenceEnd fuel rest
        let (items, rest) ← readFlowItems handles false fuel rest
        return (.mapping {} [(key, value)] :: items, rest)
      | _ =>
        let (item, rest) ← readNode handles .flow fuel tokens
        let (items, rest) ← readFlowItems handles false fuel rest
        return (item :: items, rest)

/-- Reads the key of a single pair in a sequence. A token that cannot start a key is passed. -/
def readPairKey (handles : Handles) : Nat → List Token → Except Fault (Node × List Token)
  | 0, _ => .error .missingEntry
  | fuel + 1, tokens =>
    if isAbsentFlowKey .flowSequenceEnd tokens then .ok (Node.absent, tokens.drop 1)
    else readNode handles .flow fuel tokens

/-- Reads the value of an entry between brackets. -/
def readFlowValue (handles : Handles) (closing : Token) :
    Nat → List Token → Except Fault (Node × List Token)
  | 0, _ => .error .missingEntry
  | fuel + 1, tokens =>
    match tokens with
    | .value :: rest =>
      if isAbsentFlow closing rest then .ok (Node.absent, rest)
      else readNode handles .flow fuel rest
    | _ => .ok (Node.absent, tokens)

/-- Reads the entries of a mapping between brackets. -/
def readFlowEntries (handles : Handles) (isFirst : Bool) :
    Nat → List Token → Except Fault (List (Node × Node) × List Token)
  | 0, _ => .error .missingEntry
  | fuel + 1, tokens => do
    match tokens with
    | .flowMappingEnd :: rest => return ([], rest)
    | _ =>
      let tokens ←
        if isFirst then pure tokens
        else match tokens with
          | .flowEntry :: rest => pure rest
          | _ => throw .missingEntry
      match tokens with
      | .flowMappingEnd :: rest => return ([], rest)
      | .key :: rest =>
        let (key, rest) ←
          if isAbsentFlowKey .flowMappingEnd rest then pure (Node.absent, rest)
          else readNode handles .flow fuel rest
        let (value, rest) ← readFlowValue handles .flowMappingEnd fuel rest
        let (entries, rest) ← readFlowEntries handles false fuel rest
        return ((key, value) :: entries, rest)
      | _ =>
        let (key, rest) ← readNode handles .flow fuel tokens
        let (entries, rest) ← readFlowEntries handles false fuel rest
        return ((key, Node.absent) :: entries, rest)

end

/-- Reads directives: each version and each handle is given once. -/
def readDirectives (hasVersion : Bool) (handles : Handles) :
    List Token → Except Fault (Handles × List Token)
  | .version major minor :: rest =>
    if hasVersion || major != 1 || (minor != 1 && minor != 2) then .error .directive
    else readDirectives true handles rest
  | .tagHandle handle stem :: rest =>
    if (handles.lookup handle).isSome then .error .directive
    else readDirectives hasVersion ((handle, stem) :: handles) rest
  | rest => .ok (handles, rest)

/-- Whether a document starts with directives or a mark. -/
def startsExplicitly : List Token → Bool
  | .version .. :: _ | .tagHandle .. :: _ | .documentStart :: _ => true
  | _ => false

/-- Whether nothing follows in a document. -/
def isEmptyDocument (tokens : List Token) : Bool :=
  tokens.isEmpty || startsExplicitly tokens || tokens.head? == some .documentEnd

/-- The fuel for reading tokens: for each of them, the parts of an entry are tried in turn. -/
def nodeFuel (tokens : List Token) : Nat := 4 * tokens.length + 8

/-- The tree of a document, unless there are no tokens at all. -/
def document? (tokens : List Token) : Except Fault (Option Node) := do
  if tokens.isEmpty then return none
  let (node, rest) ← (
    if startsExplicitly tokens then do
      let (handles, rest) ← readDirectives false [] tokens
      match rest with
      | .documentStart :: rest =>
        if isEmptyDocument rest then return (Node.absent, rest)
        else readNode (handles ++ Handles.usual) .block (nodeFuel rest) rest
      | _ => throw .documentStart
    else readNode Handles.usual .block (nodeFuel tokens) tokens)
  let rest := rest.dropWhile (· == .documentEnd)
  if rest.isEmpty then return some node
  else if startsExplicitly rest then throw .severalDocuments
  else throw .documentStart

end Galley.Yaml
