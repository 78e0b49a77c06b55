import ClosureLint.Registry.Basic
import ClosureLint.Ty.Deref
import ClosureLint.Ty.Subst

/-!
# Finding the callable that a use means

A method is looked for along the deref chain of its receiver's type. At each type of the chain that
is no reference, an item of the type's own impls wins over an item of a trait implemented for it;
two traits with an item of the name make the use ambiguous. A path such as `Vec::len` is looked for
on one type, or in one trait.

* `expectedReceiver` — the receiver type that a method asks for on a given type.
* `resolveMethod` — the method that a call means.
* `resolveAssociated` — the item that a path means.
-/

namespace ClosureLint

/-- Why a use means no callable. -/
inductive ResolutionError where
  | ambiguous (name : String) (traitPaths : List String)
  | noMethod (name typeText : String)
  | noAssociated (name typeText : String)
  | notInTrait (name traitPath : String)
  | noOwner (name : String)
deriving DecidableEq, Repr, Inhabited

/-- The wording of a resolution error. -/
def ResolutionError.message : ResolutionError → String
  | .ambiguous name traitPaths =>
    "multiple applicable items in scope for method '" ++ name ++ "': "
      ++ Ty.commaSeparated traitPaths
  | .noMethod name typeText =>
    "no method named '" ++ name ++ "' found for type '" ++ typeText ++ "'"
  | .noAssociated name typeText =>
    "no function or associated item named '" ++ name ++ "' found for type '" ++ typeText ++ "'"
  | .notInTrait name traitPath =>
    "cannot find method '" ++ name ++ "' in trait '" ++ traitPath ++ "'"
  | .noOwner name => "cannot resolve associated item '" ++ name ++ "'"

/-- A method, the type of the deref chain it was found on, and whether the receiver has to be
adjusted to reach the type the method asks for. -/
structure Resolution where
  decl : Decl
  step : Ty
  receiverAdjusted : Bool
deriving DecidableEq, Repr, Inhabited

/-- The receiver type that `d` asks for when it is used on the type `step`. -/
def expectedReceiver (d : Decl) (step : Ty) : Except Fault Ty :=
  match d.selfMode with
  | some .byRef => return .ref step
  | some .byRefMut => return .ref step true
  | some .byValue => return step
  | some .typed | none => do
    match ← d.selfType? with
    | some t => return t.substSelf step
    | none => throw .noReceiver

namespace Registry

/-- The use of `d`, found on `step`, with a receiver of type `receiver`. -/
def resolution (d : Decl) (step receiver : Ty) : Except Fault Resolution := do
  return ⟨d, step, (← expectedReceiver d step) != receiver⟩

/-- The methods `name` of the traits implemented for `step`. -/
def traitCandidates (r : Registry) (step : Ty) (name : String) : Except Fault (List Decl) := do
  return (← r.traitsOf step).filterMap fun traitPath =>
    (r.getTraitMethod? traitPath name).filter Decl.isMethod

/-- The traits of several candidates, in alphabetical order; a trait without a name shows as a
question mark. -/
def candidateTraits (ds : List Decl) : List String :=
  let shown (path : String) := if path.isEmpty then "?" else path
  ((ds.filterMap Decl.traitPath?).map shown).mergeSort fun a b => decide (a ≤ b)

/-- The method `name` on the first of `steps` that has one. -/
def resolveOn (r : Registry) (receiver : Ty) (name : String) :
    (steps : List Ty) → Except (Failure ResolutionError) Resolution
  | [] => do throw (.refused (.noMethod name (← receiver.text)))
  | step :: steps => do
    -- what is implemented for references is not looked at
    if step.isRef then resolveOn r receiver name steps
    else
      match (← r.getInherent? step name).filter Decl.isMethod with
      | some d => resolution d step receiver
      | none =>
        match ← r.traitCandidates step name with
        | [] => resolveOn r receiver name steps
        | [d] => resolution d step receiver
        | ds => throw (.refused (.ambiguous name (candidateTraits ds)))

/-- The method that a call of `name` on a receiver of the given type means. -/
def resolveMethod (r : Registry) (targets : DerefTable) (receiver : Ty) (name : String) :
    Except (Failure ResolutionError) Resolution := do
  r.resolveOn receiver name (← receiver.derefChain targets)

/-- The item that `Owner::name` means: an item of the type's own impls, else of the first trait
implemented for it that has one; without an owner, an item of the trait. -/
def resolveAssociated (r : Registry) (owner : Option Ty) (traitPath : Option String)
    (name : String) : Except (Failure ResolutionError) Decl :=
  match owner, traitPath with
  | some type, _ => do
    match ← r.getInherent? type name with
    | some d => return d
    | none =>
      -- of several traits the first one counts
      match (← r.traitsOf type).findSome? fun path => r.getTraitMethod? path name with
      | some d => return d
      | none => throw (.refused (.noAssociated name (← type.text)))
  | none, some path =>
    match r.getTraitMethod? path name with
    | some d => return d
    | none => throw (.refused (.notInTrait name path))
  | none, none => throw (.refused (.noOwner name))

end Registry

end ClosureLint
