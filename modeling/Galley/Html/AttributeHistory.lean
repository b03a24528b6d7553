import Galley.Html.Attributes

/-!
Attributes over time. Calls on attributes are made one after the other, and each of them comes down
to changes of single keys. What changes have led to can be told from the changes alone, without the
attributes: a key has the value that it was given last, unless it was removed after that, and the
keys stand in the order in which they were set.
-/

set_option autoImplicit false
set_option relaxedAutoImplicit false

namespace Galley.Html.Attributes

/-- A change of one key, or the removal of all keys. -/
inductive Change where
  | give (key : AttributeKey) (value : List Char)
  | remove (key : AttributeKey)
  | clear
deriving DecidableEq, Repr

namespace Change

/-- Makes a change. -/
def apply (attrs : Attributes) : Change → Attributes
  | give key value => attrs.set key value
  | remove key => attrs.erase key
  | clear => .empty

/-- What a change makes of a key, if it concerns the key: a value, or none if the key is removed. -/
def outcome? (key : AttributeKey) : Change → Option (Option (List Char))
  | give key' value => if key' = key then some (some value) else none
  | remove key' => if key' = key then some none else none
  | clear => some none

end Change

/-- The value of a key after changes, the last one of which that concerns the key decides. -/
def valueAfter? (changes : List Change) (key : AttributeKey) : Option (List Char) :=
  (changes.filterMap (Change.outcome? key)).getLast?.join

/-- The key that is there since the change with the given number: the key had no value before, was
given one by the change and has not been removed since. -/
def keySince? (changes : List Change) (i : Nat) : Option AttributeKey :=
  match changes[i]? with
  | some (.give key _) =>
    if valueAfter? (changes.take i) key = none ∧
        some none ∉ (changes.drop (i + 1)).map (Change.outcome? key)
    then some key else none
  | _ => none

/-- The keys that are there after changes, in the order in which they were set. -/
def keysAfter (changes : List Change) : List AttributeKey :=
  (List.range changes.length).filterMap (keySince? changes)

/-- A call on attributes. A value is set in the same way in place and in a chain of calls. -/
inductive Call where
  | set (key : AttributeKey) (value : List Char)
  | erase (key : AttributeKey)
  | ofList (pairs : List (AttributeKey × List Char))
  | addClass (name : List Char)
deriving DecidableEq, Repr

namespace Call

/-- Makes a call. Attributes that are put together anew take the place of those before. -/
def run (attrs : Attributes) : Call → Attributes
  | set key value => attrs.set key value
  | erase key => attrs.erase key
  | ofList pairs => .ofList pairs
  | addClass name => attrs.addClass name

/-- The changes that a call comes down to after others. -/
def changes (earlier : List Change) : Call → List Change
  | set key value => [.give key value]
  | erase key => [.remove key]
  | ofList pairs => .clear :: pairs.map fun (key, value) => .give key value
  | addClass name =>
    let classes := (valueAfter? earlier .className).getD []
    if name ∈ Text.wordsBy Text.isAsciiBlank classes then []
    else [.give .className (if classes = [] then name else classes ++ ' ' :: name)]

/-- Makes calls one after the other. -/
def runAll (attrs : Attributes) (calls : List Call) : Attributes :=
  calls.foldl run attrs

/-- The changes that calls come down to. -/
def allChanges (calls : List Call) : List Change :=
  calls.foldl (fun earlier call => earlier ++ call.changes earlier) []

end Call

end Galley.Html.Attributes
