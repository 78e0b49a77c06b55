import ClosureLint.Lint.Level
import ClosureLint.Text.Digit
import ClosureLint.Text.Quoted

/-!
# The words of a command line

A word that starts with a hyphen names an option, and may hold its value: `-Dstyle`, `-D=style`,
`--deny=style`. A long name may be cut short as long as it names one option. A lone hyphen, a
negative number, and a word with a space that names no option are operands all the same. Behind
the first word `--` there are operands only.

* `Flag` — the options.
* `Word` — what a word is.
* `Word.ofList` — what the words of a command line are.
* `Misuse` — why a command line is refused.
-/

namespace ClosureLint

/-- The options: asking for help, setting the level of a lint, asking for JSON. -/
inductive Flag where
  | help
  | level (l : Level)
  | json
deriving DecidableEq, Repr, Inhabited

/-- The names of the options, in the order in which they are listed. -/
def Flag.names : List (String × Flag) :=
  [("-h", .help), ("--help", .help), ("-A", .level .allow), ("--allow", .level .allow),
    ("-W", .level .warn), ("--warn", .level .warn), ("-D", .level .deny),
    ("--deny", .level .deny), ("--json", .json)]

/-- The option of the given name. -/
def Flag.named? (name : String) : Option Flag := Flag.names.lookup name

/-- All names of an option. -/
def Flag.title (f : Flag) : String :=
  "/".intercalate ((Flag.names.filter fun (_, g) => g = f).map Prod.fst)

/-- Why a command line is refused. -/
inductive Misuse where
  | ambiguous (word : String) (names : List String)
  | valueMissing (flag : Flag)
  | valueNotTaken (flag : Flag) (value : String)
  | noSource
  | unrecognized (words : List String)
  | unknownLint (e : UnknownLint)
deriving DecidableEq, Repr, Inhabited

/-- The wording of a refusal. -/
def Misuse.message : Misuse → String
  | .ambiguous word names =>
    "ambiguous option: " ++ word ++ " could match " ++ ", ".intercalate names
  | .valueMissing flag => "argument " ++ flag.title ++ ": expected one argument"
  | .valueNotTaken flag value =>
    "argument " ++ flag.title ++ ": ignored explicit argument " ++ Text.quoted value
  | .noSource => "the following arguments are required: source"
  | .unrecognized words => "unrecognized arguments: " ++ " ".intercalate words
  | .unknownLint e => e.message

/-- What a word of the command line is. -/
inductive Word where
  | operand (text : String)
  | separator
  | option (flag : Flag) (value : Option String)
  | unknown (text : String)
deriving DecidableEq, Repr, Inhabited

namespace Word

/-- A word split at its first equals sign, if it has one. -/
def splitValue (cs : List Char) : String × Option String :=
  let name := cs.takeWhile (· ≠ '=')
  (String.ofList name,
    if name.length = cs.length then none else some (String.ofList (cs.drop (name.length + 1))))

/-- The options that a word which spells no name in full may mean, with its value. -/
def candidates (cs : List Char) : List (String × Flag × Option String) :=
  match cs with
  | '-' :: '-' :: _ =>
    let (start, value) := splitValue cs
    (Flag.names.filter fun (name, _) => name.startsWith start).map fun (name, f) =>
      (name, f, value)
  | '-' :: c :: rest =>
    let short := String.ofList ['-', c]
    (Flag.names.filter fun (name, _) => name = short).map fun (name, f) =>
      (name, f, some (String.ofList rest))
  | _ => []

/-- A word that names no option. -/
def other (s : String) : Word :=
  if Text.looksNegative s || s.contains ' ' then .operand s else .unknown s

/-- What a word in front of `--` is. -/
def ofString (s : String) : Except Misuse Word :=
  if s.toList.head? ≠ some '-' then return .operand s
  else
    match Flag.named? s with
    | some f => return .option f none
    | none =>
      if s = "-" then return .operand s
      else
        let (name, value) := splitValue s.toList
        match Flag.named? name, value with
        | some f, some value => return .option f (some value)
        | _, _ =>
          match candidates s.toList with
          | [] => return other s
          | [(_, f, value)] => return .option f value
          | several => throw (.ambiguous s (several.map Prod.fst))

/-- What the words of a command line are. -/
def ofList : List String → Except Misuse (List Word)
  | [] => return []
  | s :: rest => do
    if s = "--" then return .separator :: rest.map .operand
    let word ← ofString s
    return word :: (← ofList rest)

end Word

end ClosureLint
