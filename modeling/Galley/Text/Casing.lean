import Galley.Text.CaseRun
import Galley.Text.RangeTable

/-!
Full Unicode case mapping. Lower case knows one context: a capital sigma at the end of a word
becomes the final form. Upper case may make several characters of one.
-/

set_option autoImplicit false
set_option relaxedAutoImplicit false

namespace Galley.Text

/-- The run among `runs` that covers a code point, if there is one. -/
def findRun (runs : Array CaseRun) (code : Nat) : Option CaseRun :=
  runs.find? (·.covers code)

/-- A code point shifted along its run. -/
def shiftCase (runs : Array CaseRun) (c : Char) : Char :=
  match findRun runs c.toNat with
  | some run => Char.ofNat ((c.toNat : Int) + run.shift).toNat
  | none => c

/-- Lower case of one character out of context. -/
def lowerChar (c : Char) : List Char :=
  if c.toNat < 0x80 then [c.toLower]
  else if c.toNat == 0x130 then ['i', Char.ofNat 0x307]
  else [shiftCase lowerRuns c]

/-- Upper case of one character. -/
def upperChar (c : Char) : List Char :=
  if c.toNat < 0x80 then [c.toUpper]
  else
    match upperExpansions.lookup c.toNat with
    | some codes => codes.map Char.ofNat
    | none => [shiftCase upperRuns c]

/-- Characters that have a case. -/
def isCased (c : Char) : Bool :=
  inRanges casedRanges c.toNat 12 0 casedRanges.size

/-- Characters that the final-sigma rule looks through. -/
def isCaseIgnorable (c : Char) : Bool :=
  inRanges caseIgnorableRanges c.toNat 12 0 caseIgnorableRanges.size

/-- Whether the first character that is not looked through has a case. -/
def startsCased (s : List Char) : Bool :=
  match s.dropWhile isCaseIgnorable with
  | [] => false
  | c :: _ => isCased c

/-- Lower case of the rest of a text; `before` holds the characters already passed, last first. -/
def lowerFrom : List Char → List Char → List Char
  | _, [] => []
  | before, c :: rest =>
    let mapped :=
      if c.toNat == 0x3A3 then
        if startsCased before && !startsCased rest then [Char.ofNat 0x3C2]
        else [Char.ofNat 0x3C3]
      else lowerChar c
    mapped ++ lowerFrom (c :: before) rest

/-- Lower case of a text. -/
def lower (s : List Char) : List Char :=
  lowerFrom [] s

/-- Upper case of a text. -/
def upper (s : List Char) : List Char :=
  s.flatMap upperChar

end Galley.Text
