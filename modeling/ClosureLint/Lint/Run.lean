import ClosureLint.Core.Walk
import ClosureLint.Lint.Eta
import ClosureLint.Syntax.Parse
import ClosureLint.Typing.Program

/-!
# Linting

* `runLints` — the findings in checked functions, in reporting order.
* `lintSource` — reads, checks and lints a source text. What an earlier stage reports as an error
  keeps the later ones from running.
-/

namespace ClosureLint

/-- The findings at every expression of the functions, under each of the configurations. -/
def findingsIn (configs : List Config) (q : Query) (functions : List Core.Function) :
    Except Fault (List Diagnostic) := do
  let places := functions.flatMap Core.Function.walk
  let found ← places.mapM fun e => configs.mapM fun c => Eta.checkPlace c q e
  return found.flatten.flatten

/-- The diagnostics in reporting order. Those of one place keep their order. -/
def inReportingOrder (ds : List Diagnostic) : List Diagnostic :=
  ds.mergeSort fun a b => a.span.le b.span

/-- The findings in the functions, in reporting order. -/
def runLints (configs : List Config) (q : Query) (functions : List Core.Function) :
    Except Fault (List Diagnostic) := do
  return inReportingOrder (← findingsIn configs q functions)

/-- What ends the linting of a source text before it gives diagnostics. -/
inductive LintFault where
  | literal (f : Syntax.LateFault)
  | check (f : Typing.CheckFault)
deriving DecidableEq, Repr, Inhabited

/-- The wording of a fault of linting. -/
def LintFault.message : LintFault → String
  | .literal f => f.message
  | .check f => f.message

/-- The findings in a checked program. -/
def lintChecked (config : Config) (checked : Typing.Checked) : Except Fault (List Diagnostic) :=
  runLints [config] checked.query checked.functions

/-- The diagnostics for a program: those of checking if there are errors, else the findings. -/
def lintProgram (config : Config) (file : Option String) (p : Syntax.Program) :
    Except Typing.CheckFault (List Diagnostic) := do
  let checked ← Typing.check file p
  if hasErrors checked.diagnostics then return checked.diagnostics
  return checked.diagnostics ++ (← lintChecked config checked)

/-- The diagnostics for a source text. -/
def lintSource (config : Config) (file : Option String) (source : String) :
    Except LintFault (List Diagnostic) := do
  match ← (Syntax.parseFile file source).mapError .literal with
  | .error d => return [d]
  | .ok p => (lintProgram config file p).mapError .check

end ClosureLint
