import Galley.Markdown.Fault

/-!
What a rendering has to report: warnings about parts that were replaced, and errors that were
recovered from, each with the stage that recovered. Reports keep the order in which they arose.
-/

set_option autoImplicit false
set_option relaxedAutoImplicit false

namespace Galley

/-- A place in a file, or in a text without a name. -/
structure Location where
  file : Option (List Char) := none
  line : Nat
  column : Nat
deriving DecidableEq, Repr, Inhabited

/-- A place as it is shown. -/
def Location.text (l : Location) : List Char :=
  let point := Nat.toDigits 10 l.line ++ ':' :: Nat.toDigits 10 l.column
  match l.file with
  | some file => file ++ ':' :: point
  | none => point

/-- What was replaced. -/
inductive Warning where
  | missingImageSource
  | missingAltText (src : List Char)
  | embedMissingCastId (location : Option Location)
deriving DecidableEq, Repr, Inhabited

/-- A warning as it is shown. -/
def Warning.text : Warning → List Char
  | .missingImageSource => "image found without src attribute".toList
  | .missingAltText src => "image missing alt text: ".toList ++ src
  | .embedMissingCastId location =>
    "asciinema block missing cast-id".toList ++
      (match location with
        | some l => " at ".toList ++ l.text
        | none => [])

/-- How bad a problem is. -/
inductive Severity where
  | error
  | warning
deriving DecidableEq, Repr, Inhabited

/-- A problem that was recovered from. -/
structure Problem where
  stage : List Char
  message : List Char
  severity : Severity := .error
deriving DecidableEq, Repr, Inhabited

/-- The name of a severity. -/
def Severity.name : Severity → List Char
  | .error => "error".toList
  | .warning => "warning".toList

/-- A problem as it is shown. -/
def Problem.text (p : Problem) : List Char :=
  p.severity.name ++ " in ".toList ++ p.stage ++ ": ".toList ++ p.message

/-- What a rendering has to report. -/
structure Diagnostics where
  warnings : List Warning := []
  errors : List Problem := []
deriving DecidableEq, Repr, Inhabited

namespace Diagnostics

/-- Adds a warning. -/
def warn (d : Diagnostics) (w : Warning) : Diagnostics :=
  { d with warnings := d.warnings ++ [w] }

/-- Adds a problem. -/
def add (d : Diagnostics) (p : Problem) : Diagnostics :=
  { d with errors := d.errors ++ [p] }

/-- Adds an error that a stage recovered from. -/
def fail (d : Diagnostics) (stage message : List Char) : Diagnostics :=
  d.add { stage, message }

/-- Adds all reports of another collection. -/
def extend (d e : Diagnostics) : Diagnostics :=
  ⟨d.warnings ++ e.warnings, d.errors ++ e.errors⟩

/-- Whether there are warnings. -/
def hasWarnings (d : Diagnostics) : Bool := !d.warnings.isEmpty

/-- Whether there are errors. -/
def hasErrors (d : Diagnostics) : Bool := !d.errors.isEmpty

/-- Whether there is any report. -/
def hasAny (d : Diagnostics) : Bool := d.hasWarnings || d.hasErrors

/-- The number of reports. -/
def count (d : Diagnostics) : Nat := d.warnings.length + d.errors.length

end Diagnostics

end Galley
