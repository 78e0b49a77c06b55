import ClosureLint.CommandLine.Options
import ClosureLint.Files.Tree
import ClosureLint.Lint.Run
import ClosureLint.Report
import ClosureLint.Text.Utf8

/-!
# A run

Each file is linted on its own. A file that cannot be read gives one diagnostic that says so, and
the other files are linted all the same.

* `Input` — a file that was asked for, and what reading it gave.
* `lintInput`, `lintInputs` — the entries that files contribute.
* `Options.run` — the exit code and the output of a run.
* `usage`, `Misuse.report` — what is said when there is no run.
-/

namespace ClosureLint

/-- A file that was asked for, and what reading it gave. -/
structure Input where
  path : FilePath
  content : Except ReadError (List UInt8)

/-- What ends a run before it gives a report. -/
inductive RunFault where
  | nulInPath
  | lint (f : LintFault)
deriving DecidableEq, Repr, Inhabited

/-- The wording of a fault. -/
def RunFault.message : RunFault → String
  | .nulInPath => "embedded null byte"
  | .lint f => f.message

/-- The diagnostic for a file that cannot be read. -/
def unreadable (path reason : String) : Diagnostic :=
  .error "io" ("couldn't read " ++ path ++ ": " ++ reason) { file := some path }

/-- The text of a file, with line feeds at the ends of lines, or the reason why there is none. -/
def Input.text (i : Input) : Except String String :=
  match i.content with
  | .error e => throw e.message
  | .ok octets =>
    match Text.decode octets with
    | .error e => throw e.message
    | .ok cs => return String.ofList (Text.unifyLineFeeds cs)

/-- The diagnostics for a file. No path may hold the character NUL. -/
def lintInput (config : Config) (i : Input) : Except RunFault (List Diagnostic) :=
  let path := i.path.text
  if path.contains '\x00' then throw .nulInPath
  else
    match i.text with
    | .error reason => return [unreadable path reason]
    | .ok source => (lintSource config (some path) source).mapError .lint

/-- The entries that files contribute, in the order of the files. -/
def lintInputs (config : Config) (inputs : List Input) : Except RunFault (List Entry) := do
  let entries ← inputs.mapM fun i => do
    return (← lintInput config i).map fun d => (⟨i.path.text, d⟩ : Entry)
  return entries.flatten

/-- What a run leaves behind. -/
structure Outcome where
  exitCode : Nat
  output : String
  errors : String
deriving DecidableEq, Repr, Inhabited

/-- The outcome that shows entries: as one line of JSON on the output, or as lines for people on the
error stream. -/
def Outcome.ofEntries (json : Bool) (entries : List Entry) : Outcome where
  exitCode := ClosureLint.exitCode entries
  output := if json then (payload entries).text ++ "\n" else ""
  errors := if json then "" else String.join ((allLines entries).map (· ++ "\n"))

/-- The outcome of a run whose files hold what `read` says. -/
def Options.run (o : Options) (read : FilePath → Except ReadError (List UInt8)) :
    Except RunFault Outcome := do
  return .ofEntries o.json (← lintInputs o.config (o.sources.map fun p => ⟨p, read p⟩))

/-- The line that says how the program is called. -/
def usage : String :=
  "usage: etalint [-h] [-A LINT] [-W LINT] [-D LINT] [--json] source [source ...]"

/-- What is said when a command line is refused. -/
def Misuse.report (e : Misuse) : String := "etalint: error: " ++ e.message

end ClosureLint
