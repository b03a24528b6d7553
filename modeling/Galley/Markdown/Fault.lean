import Galley.Markdown.Source
import Galley.Text.Quoted

/-!
What can be wrong with a document. Plain markup has no wrong form; faults come from component tags
and expressions only. Each fault has its place, a reason and the rule that it breaks.
-/

set_option autoImplicit false
set_option relaxedAutoImplicit false

namespace Galley.Markdown

/-- The rules that a document can break. -/
inductive Rule where
  | unexpectedEnd
  | unexpectedCharacter
  | unexpectedLazy
  | unexpectedClosingSlash
  | unexpectedAttribute
  | unexpectedSelfClosingSlash
  | tagMismatch
deriving DecidableEq, Repr, Inhabited

/-- The name of a rule as it stands in messages. -/
def Rule.name : Rule → String
  | .unexpectedEnd => "unexpected-eof"
  | .unexpectedCharacter => "unexpected-character"
  | .unexpectedLazy => "unexpected-lazy"
  | .unexpectedClosingSlash => "unexpected-closing-slash"
  | .unexpectedAttribute => "unexpected-attribute"
  | .unexpectedSelfClosingSlash => "unexpected-self-closing-slash"
  | .tagMismatch => "end-tag-mismatch"

/-- A fault at a point, or over a stretch when it has an end. -/
structure Fault where
  start : Point
  stop : Option Point := none
  reason : String
  rule : Rule
deriving Repr, Inhabited

/-- A point as line and column. -/
def Point.text (p : Point) : String :=
  s!"{p.line}:{p.column}"

/-- The place of a fault: its point, or its two ends. -/
def Fault.place (f : Fault) : String :=
  match f.stop with
  | none => f.start.text
  | some stop => s!"{f.start.text}-{stop.text}"

/-- The fault as one line, with the checker's name before the rule. -/
def Fault.message (f : Fault) : String :=
  s!"{f.place}: {f.reason} (markdown-rs:{f.rule.name})"

/-- A character as faults show it: itself if it prints in ASCII, and its code. -/
def describeChar (c : Char) : String :=
  let digits := (Nat.toDigits 16 c.toNat).map Char.toUpper
  let code := "U+" ++ String.ofList (List.replicate (4 - digits.length) '0' ++ digits)
  if c == '\x60' then s!"\x60\x60 \x60 \x60\x60 ({code})"
  else if '!' ≤ c && c ≤ '~' then s!"\x60{c}\x60 ({code})"
  else code

/-- The fault of a character that does not fit where it stands. -/
def Fault.character (point : Point) (c : Char) (here expected : String) : Fault :=
  { start := point
    reason := s!"Unexpected character {describeChar c} {here}, expected {expected}"
    rule := .unexpectedCharacter }

/-- The fault of a document that ends too early. -/
def Fault.early (point : Point) (here expected : String) : Fault :=
  { start := point
    reason := s!"Unexpected end of file {here}, expected {expected}"
    rule := .unexpectedEnd }

/-- The fault of a line inside a tag or an expression that lacks its container's marker. -/
def Fault.lazyLine (point : Point) (inside : String) : Fault :=
  { start := point
    reason := s!"Unexpected lazy line in {inside} in container, expected line to be prefixed " ++
      "with \x60>\x60 when in a block quote, whitespace when in a list, etc"
    rule := .unexpectedLazy }

end Galley.Markdown
