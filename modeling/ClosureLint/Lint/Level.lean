import ClosureLint.Diagnostic
import ClosureLint.Text.Blank

/-!
# Lints and their levels

* `Lint` — the static description of a lint; `redundantClosure` is the one built in.
* `Level` — whether a lint is allowed, warns, or is denied.
* `Config` — the level of each lint. Overrides are applied in order, so the last one that names a
  lint, or the group it belongs to, wins.
-/

namespace ClosureLint

/-- The level of a lint. -/
inductive Level where
  | allow
  | warn
  | deny
deriving DecidableEq, Repr, Inhabited

namespace Level

/-- The word for a level. -/
def word : Level → String
  | allow => "allow"
  | warn => "warn"
  | deny => "deny"

/-- The severity of what a lint of this level finds. -/
def severity : Level → String
  | deny => "error"
  | _ => "warning"

end Level

/-- The static description of a lint. -/
structure Lint where
  name : String
  group : String
  defaultLevel : Level
  message : String := ""
  suggestion : String := ""
  applicability : Applicability := .machineApplicable
deriving DecidableEq, Repr, Inhabited

/-- Closures such as `|a| foo(a)`, which can be written as just `foo`. -/
def redundantClosure : Lint where
  name := "redundant_closure"
  group := "style"
  defaultLevel := .warn
  message := "redundant closure found"
  suggestion := "remove closure as shown"

/-- The lints that are built in. -/
def allLints : List Lint := [redundantClosure]

/-- The form of a lint's name that is compared: blanks around it are dropped, and a hyphen counts
as an underscore. -/
def normalizeLintName (name : String) : String :=
  (Text.strip name).map fun c => if c = '-' then '_' else c

/-- The lints of a run and the levels that have been set, latest first. -/
structure Config where
  lints : List Lint
  levels : List (String × Level)
deriving DecidableEq, Repr, Inhabited

/-- An override that names no lint and no group. -/
structure UnknownLint where
  name : String
deriving DecidableEq, Repr, Inhabited

/-- The wording for an unknown lint. -/
def UnknownLint.message (e : UnknownLint) : String := "unknown lint: `" ++ e.name ++ "`"

namespace Config

/-- The lints at their default levels. Of lints that share a name the first decides. -/
def ofLints (lints : List Lint) : Config := ⟨lints, lints.map fun l => (l.name, l.defaultLevel)⟩

/-- The lints that an override names, by name or by group. -/
def named (c : Config) (name : String) : List Lint :=
  let key := normalizeLintName name
  c.lints.filter fun l => key == l.name || key == l.group

/-- Sets the level of the lints that `name` names. -/
def setLevel (c : Config) (name : String) (level : Level) : Except UnknownLint Config :=
  match c.named name with
  | [] => throw ⟨name⟩
  | lints => return { c with levels := lints.map (fun l => (l.name, level)) ++ c.levels }

/-- Applies overrides in order, up to the first that names no lint. The configuration holds what
was applied, whether or not there was such a one. -/
def applyAll (c : Config) : List (String × Level) → Config × Option UnknownLint
  | [] => (c, none)
  | (name, level) :: rest =>
    match c.setLevel name level with
    | .ok c => c.applyAll rest
    | .error e => (c, some e)

/-- Applies overrides in order, all of which have to name lints. -/
def apply (c : Config) (overrides : List (String × Level)) : Except UnknownLint Config :=
  match c.applyAll overrides with
  | (c, none) => return c
  | (_, some e) => throw e

/-- The level of a lint. -/
def level (c : Config) (l : Lint) : Level := (c.levels.lookup l.name).getD l.defaultLevel

/-- Whether a lint is not allowed. -/
def isEnabled (c : Config) (l : Lint) : Bool := c.level l != .allow

/-- The built-in lints at their default levels. -/
def standard : Config := ofLints allLints

end Config

end ClosureLint
