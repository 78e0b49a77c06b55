import ClosureLint.Source.Position

/-!
# Diagnostics

What a stage has to say about a piece of source. Fix-it suggestions are part of a diagnostic; they
are shown and never applied.

* `Suggestion` — a text that may replace a span, and how far the replacement can be trusted.
* `Diagnostic` — a message with its phase, severity, span, notes and suggestions.
* `hasErrors` — whether a list of diagnostics stops the pipeline.
-/

namespace ClosureLint

/-- How far a suggestion can be trusted to keep the meaning of the program. -/
inductive Applicability where
  | machineApplicable
  | maybeIncorrect
  | hasPlaceholders
  | unspecified
deriving DecidableEq, Repr, Inhabited

/-- The name under which an applicability is reported. -/
def Applicability.name : Applicability → String
  | .machineApplicable => "MACHINE_APPLICABLE"
  | .maybeIncorrect => "MAYBE_INCORRECT"
  | .hasPlaceholders => "HAS_PLACEHOLDERS"
  | .unspecified => "UNSPECIFIED"

/-- A replacement text proposed for `span`. -/
structure Suggestion where
  message : String
  replacement : String
  span : Span := {}
  applicability : Applicability := .unspecified
deriving DecidableEq, Repr, Inhabited

/-- A message about a piece of source. -/
structure Diagnostic where
  message : String
  code : Option String := none
  phase : Option String := none
  severity : String := "error"
  span : Span := {}
  notes : List String := []
  suggestions : List Suggestion := []
deriving DecidableEq, Repr, Inhabited

/-- A diagnostic is an error when its severity says so. -/
def Diagnostic.isError (d : Diagnostic) : Bool := d.severity == "error"

/-- An error of the named phase about `span`. -/
def Diagnostic.error (phase message : String) (span : Span) : Diagnostic where
  message := message
  phase := some phase
  severity := "error"
  span := span

/-- Whether some diagnostic is an error. -/
def hasErrors (ds : List Diagnostic) : Bool := ds.any Diagnostic.isError

end ClosureLint
