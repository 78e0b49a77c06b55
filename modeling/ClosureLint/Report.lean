import ClosureLint.Diagnostic
import ClosureLint.Json

/-!
# Reports

A diagnostic is shown to people as lines, and to programs as a JSON object. Both name the file the
diagnostic is about: that of its span, or else the file that was asked for.

* `Diagnostic.lines` — one line for the diagnostic, then one for each note and suggestion.
* `Diagnostic.toJson` — the object.
* `Entry` — a diagnostic with the file that was asked for.
* `exitCode`, `payload`, `allLines` — what a whole run reports.
-/

namespace ClosureLint

/-- A line or column in a report. -/
def placeText (n : Option Int) : String := n.elim "?" toString

namespace Diagnostic

/-- The file that a diagnostic is about, when `source` is the file that was asked for. An empty
name counts as none. -/
def fileOr (d : Diagnostic) (source : String) : String :=
  match d.span.file with
  | some file => if file.isEmpty then source else file
  | none => source

/-- The code of a diagnostic in brackets. -/
def codeText (d : Diagnostic) : String :=
  match d.code with
  | some code => if code.isEmpty then "" else "[" ++ code ++ "]"
  | none => ""

/-- The first line of a diagnostic. -/
def headline (d : Diagnostic) (source : String) : String :=
  d.fileOr source ++ ":" ++ placeText d.span.line ++ ":" ++ placeText d.span.column ++ ": "
    ++ d.severity ++ d.codeText ++ ": " ++ d.message

/-- The line of a note. -/
def noteLine (note : String) : String := "  = note: " ++ note

/-- The line of a suggestion. -/
def helpLine (s : Suggestion) : String := "  = help: " ++ s.message ++ ": `" ++ s.replacement ++ "`"

/-- The lines that show a diagnostic. -/
def lines (d : Diagnostic) (source : String) : List String :=
  d.headline source :: (d.notes.map noteLine ++ d.suggestions.map helpLine)

/-- The object that shows a suggestion. -/
def suggestionJson (s : Suggestion) : Json :=
  .object [("message", .str s.message), ("replacement", .str s.replacement),
    ("line", .option .int s.span.line), ("column", .option .int s.span.column),
    ("end_line", .option .int s.span.endLine), ("end_column", .option .int s.span.endColumn),
    ("applicability", .str s.applicability.name)]

/-- The object that shows a diagnostic. -/
def toJson (d : Diagnostic) (source : String) : Json :=
  .object [("phase", .option .str d.phase), ("code", .option .str d.code),
    ("message", .str d.message), ("severity", .str d.severity), ("file", .str (d.fileOr source)),
    ("line", .option .int d.span.line), ("column", .option .int d.span.column),
    ("notes", .list (d.notes.map .str)), ("suggestions", .list (d.suggestions.map suggestionJson))]

end Diagnostic

/-- A diagnostic, and the file that was asked for. -/
structure Entry where
  source : String
  diagnostic : Diagnostic
deriving DecidableEq, Repr, Inhabited

/-- A run fails when it reports an error. -/
def exitCode (entries : List Entry) : Nat :=
  if hasErrors (entries.map Entry.diagnostic) then 1 else 0

/-- The lines that show all entries. -/
def allLines (entries : List Entry) : List String :=
  entries.flatMap fun e => e.diagnostic.lines e.source

/-- The object that shows a run. -/
def payload (entries : List Entry) : Json :=
  .object [("exit_code", .int (exitCode entries)),
    ("diagnostics", .list (entries.map fun e => e.diagnostic.toJson e.source))]

end ClosureLint
