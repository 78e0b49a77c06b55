import ClosureLint.Diagnostic
import ClosureLint.Registry.Resolve

/-!
# What is wrong with a program

* `Problem` — the causes for which the checker reports a diagnostic.
* `Problem.message` — their wording.
* `Problem.diagnostic` — a cause at a place.
-/

namespace ClosureLint

/-- A cause for which the checker reports a diagnostic. Types in it are given as text. -/
inductive Problem where
  | repeatedName (path : String)
  | selfOutsideImpl
  | unknownType (path : String)
  | unknownTrait (path : String)
  | notMember (method traitPath : String)
  | registry (e : RegistryError)
  | resolution (e : ResolutionError)
  | needsType (name : String)
  | unknownValue (path : String)
  | unknownPrefix (path : String)
  | notDereferenceable (typeText : String)
  | notCallable (typeText : String)
  | wrongArity (callable : String) (wanted given : Nat)
  | mismatch (expected found : String)
  | notTuple (expected : String)
deriving DecidableEq, Repr, Inhabited

/-- The wording of a problem. -/
def Problem.message : Problem → String
  | .repeatedName path => "the name `" ++ path ++ "` is defined multiple times"
  | .selfOutsideImpl => "`Self` is only available in traits and impls"
  | .unknownType path => "cannot find type `" ++ path ++ "` in this scope"
  | .unknownTrait path => "cannot find trait `" ++ path ++ "` in this scope"
  | .notMember method traitPath =>
    "method `" ++ method ++ "` is not a member of trait `" ++ traitPath ++ "`"
  | .registry e => e.message
  | .resolution e => e.message
  | .needsType name => "type annotations needed for `" ++ name ++ "`"
  | .unknownValue path => "cannot find value `" ++ path ++ "` in this scope"
  | .unknownPrefix path =>
    "failed to resolve: use of undeclared type or module `" ++ path ++ "`"
  | .notDereferenceable typeText => "type `" ++ typeText ++ "` cannot be dereferenced"
  | .notCallable typeText => "expected function, found `" ++ typeText ++ "`"
  | .wrongArity callable wanted given =>
    "this " ++ callable ++ " takes " ++ toString wanted ++ " argument"
      ++ (if wanted = 1 then "" else "s") ++ " but " ++ toString given ++ " were supplied"
  | .mismatch expected found =>
    "mismatched types: expected `" ++ expected ++ "`, found `" ++ found ++ "`"
  | .notTuple expected => "mismatched types: expected `" ++ expected ++ "`, found tuple"

/-- The diagnostic that reports a problem at `span`. -/
def Problem.diagnostic (p : Problem) (span : Span) : Diagnostic :=
  .error "typecheck" p.message span

/-- The span of an extent in a file. -/
def spanIn (file : Option String) (l : Loc) : Span := (Span.ofLoc l).withFile file

end ClosureLint
