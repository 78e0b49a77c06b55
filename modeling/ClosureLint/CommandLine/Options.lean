import ClosureLint.CommandLine.Word
import ClosureLint.Files.Path

/-!
# The options of a run

The sources are the operands that stand together where the first operand stands; operands behind a
later option are not recognized. Levels apply in the order in which they are given.

* `Options` — the files to lint, the levels of the lints, and the form of the report.
* `Options.ofList` — the options that a command line asks for.
-/

namespace ClosureLint

/-- What a run is asked to do. -/
structure Options where
  sources : List FilePath
  config : Config
  json : Bool
deriving Repr, Inhabited

/-- Whether sources may still be given: none was, the last word was one, or something else stood
behind them. -/
inductive SourcePhase where
  | awaited
  | taken
  | over
deriving DecidableEq, Repr, Inhabited

/-- What the words read so far ask for. -/
structure Request where
  phase : SourcePhase := .awaited
  sources : List String := []
  levels : List (String × Level) := []
  json : Bool := false
  unrecognized : List String := []
deriving Repr, Inhabited

namespace Request

/-- An option ends the sources. -/
def afterOption (r : Request) : Request :=
  { r with phase := if r.phase = .awaited then .awaited else .over }

/-- A word that has no place. -/
def reject (r : Request) (word : String) : Request :=
  { r with unrecognized := r.unrecognized ++ [word] }

/-- An operand is a source, unless the sources are over. -/
def addOperand (r : Request) (text : String) : Request :=
  if r.phase = .over then r.reject text
  else { r with phase := .taken, sources := r.sources ++ [text] }

/-- The word `--` has no place where the sources are over. -/
def addSeparator (r : Request) : Request := if r.phase = .over then r.reject "--" else r

/-- A level for a lint. -/
def addLevel (r : Request) (l : Level) (name : String) : Request :=
  { r.afterOption with levels := r.levels ++ [(name, l)] }

end Request

/-- Why a command line asks for no run: it asks for help, or it is refused. -/
inductive NoRun where
  | help
  | misuse (e : Misuse)
deriving DecidableEq, Repr, Inhabited

/-- What words ask for, in addition to `r`. A level without a value takes the next word, if that is
an operand. -/
def Request.collect (r : Request) : List Word → Except NoRun Request
  | [] => return r
  | .operand text :: ws => (r.addOperand text).collect ws
  | .separator :: ws => r.addSeparator.collect ws
  | .unknown text :: ws => (r.afterOption.reject text).collect ws
  | .option (.level l) (some name) :: ws => (r.addLevel l name).collect ws
  | .option (.level l) none :: .operand name :: ws => (r.addLevel l name).collect ws
  | .option (.level l) none :: _ => throw (.misuse (.valueMissing (.level l)))
  | .option .json none :: ws => { r.afterOption with json := true }.collect ws
  | .option .help none :: _ => throw .help
  | .option flag (some value) :: _ => throw (.misuse (.valueNotTaken flag value))

/-- The options that a request amounts to. -/
def Request.options (r : Request) : Except Misuse Options := do
  if r.sources.isEmpty then throw .noSource
  if !r.unrecognized.isEmpty then throw (.unrecognized r.unrecognized)
  let config ← (Config.standard.apply r.levels).mapError .unknownLint
  return ⟨r.sources.map FilePath.parse, config, r.json⟩

/-- The options that a command line asks for. -/
def Options.ofList (args : List String) : Except NoRun Options := do
  let words ← (Word.ofList args).mapError .misuse
  let request ← ({} : Request).collect words
  request.options.mapError .misuse

end ClosureLint
